import OpenOxide.Text.Paths
import OpenOxide.Text.Strings

/-!
# Files of the proxy

The Traefik service only touches files under its base path whose names end in
one of three extensions.  Certificates are installed through the same service:
each one has a directory of its own under the dynamic configuration, with its
chain, its key and a configuration that names both.
-/

namespace OpenOxide.Traefik

open Text

/-- What the process environment says about the directories. -/
structure Environment where
  traefikBasePath : Option String
  base : String

def trimEndSlashes (text : String) : String :=
  String.ofList (text.toList.reverse.dropWhile (· == '/')).reverse

variable (env : Environment)

def getTraefikBasePath : String :=
  ((env.traefikBasePath.map fun value => trimEndSlashes (trim value)).filter
    fun value => !value.isEmpty).getD (env.base ++ "/traefik")

def isConfiguration (path : List Char) : Bool :=
  (extension path).any fun ending =>
    ending == "yml".toList || ending == "yaml".toList ||
      ending == "json".toList

/-- A configuration file below the base. -/
def sanitizeTraefikPath (relativePath : String)
    (allowEtcTraefik : Bool) : Except String (List Char) := do
  let cleanPath := (trim relativePath).toList
  if cleanPath.isEmpty then throw "Security Error: File path is required"
  if cleanPath.contains '\x00' || cleanPath.contains '\\' then
    throw "Security Error: Invalid file path"
  let baseDir := getTraefikBasePath env
  let fullPath := join baseDir.toList cleanPath
  if (components fullPath).contains .parentDir then
    throw "Security Error: Path traversal detected in file path"
  let insideBase := isInside baseDir.toList fullPath
  let insideEtcTraefik :=
    allowEtcTraefik && isInside "/etc/traefik".toList fullPath
  if !insideBase && !insideEtcTraefik then
    throw ("Security Error: File path must remain inside " ++ baseDir)
  let isAcme := (fileName fullPath).getD [] == "acme.json".toList
  if !isConfiguration fullPath && !isAcme then
    throw "Security Restriction: Only .yml, .yaml, and .json files are accessible"
  return fullPath

def sanitizeReadPath (relativePath : String) : Except String (List Char) :=
  sanitizeTraefikPath env relativePath true

def sanitizeWritePath (relativePath : String) : Except String (List Char) :=
  sanitizeTraefikPath env relativePath false

/-- What the executor of the service does with a path, and with what it gets to
write there. -/
structure Executor where
  apply : List Char → String → Except String Unit
  remove : List Char → Except String Unit

variable (executor : Executor)

def writeFile (path content : String) : Except String Unit := do
  let fullPath ← sanitizeWritePath env path
  if "acme.json".toList.isSuffixOf fullPath then
    throw "Security Violation: acme.json is read-only and cannot be modified"
  executor.apply fullPath content

def deleteDirectory (path : String) : Except String Unit := do
  let fullPath ← sanitizeWritePath env path
  executor.remove fullPath

structure Certificate where
  certificateData : String
  privateKey : String
  certificatePath : String

variable (certificate : Certificate)

/-- One component, and not the parent. -/
def validatePath (path : String) : Except String Unit :=
  if (trim path).isEmpty || contains ".." path || path.toList.contains '/' ||
      path.toList.contains '\\' then
    throw "certificate path must be a simple directory name"
  else return ()

namespace Certificate

def directory : String :=
  "dynamic/certificates/" ++ certificate.certificatePath

def certPath : String :=
  certificate.directory ++ "/chain.crt"

def keyPath : String :=
  certificate.directory ++ "/privkey.key"

def configPath : String :=
  certificate.directory ++ "/certificate.yml"

def config : String :=
  "tls:\n  certificates:\n    - certFile: /etc/openoxide/traefik/" ++
    certificate.certPath ++ "\n      keyFile: /etc/openoxide/traefik/" ++
    certificate.keyPath ++ "\n"

/-- The files of a certificate, in the order in which they are written. -/
def files : List (String × String) :=
  [(certificate.certPath, certificate.certificateData),
    (certificate.keyPath, certificate.privateKey),
    (certificate.configPath, certificate.config)]

def write : Except String Unit := do
  validatePath certificate.certificatePath
  certificate.files.forM fun file => writeFile env executor file.1 file.2

def delete : Except String Unit := do
  validatePath certificate.certificatePath
  deleteDirectory env executor certificate.directory

end Certificate

/-- What the last check of the sanitizer lets through. -/
theorem sanitize_ok {env : Environment} {path : String}
    {allowEtcTraefik : Bool} {fullPath : List Char}
    (accepted : sanitizeTraefikPath env path allowEtcTraefik =
      .ok fullPath) :
    fullPath = join (getTraefikBasePath env).toList (trim path).toList ∧
      (isConfiguration fullPath ||
        (fileName fullPath).getD [] == "acme.json".toList) = true := by
  simp only [sanitizeTraefikPath, bind, Except.bind, throw, throwThe,
    MonadExceptOf.throw, pure, Except.pure] at accepted
  split at accepted
  next _ => cases accepted
  split at accepted
  next _ => cases accepted
  split at accepted
  next _ => cases accepted
  split at accepted
  next _ => cases accepted
  split at accepted
  next _ => cases accepted
  next known =>
    cases accepted
    refine ⟨rfl, ?_⟩
    rwa [← Bool.not_or, Bool.not_eq_true', Bool.not_eq_false] at known

/-- A file in a directory is rejected when its name has none of the
extensions. -/
theorem sanitize_rejects (allowEtcTraefik : Bool)
    {path : String} {letter : Char} {rest name : List Char}
    (written : path.toList = letter :: rest ++ '/' :: name)
    (relative : letter ≠ '/') (visible : isWhiteSpace letter = false)
    (ends : ∀ letter ∈ name.getLast?, isWhiteSpace letter = false)
    (single : '/' ∉ name) (named : component? name = some (.normal name))
    (other : (name == "acme.json".toList) = false)
    (foreign : (extensionOf name).any (fun ending =>
      ending == "yml".toList || ending == "yaml".toList ||
        ending == "json".toList) = false) :
    (sanitizeTraefikPath env path allowEtcTraefik).isOk = false := by
  have nonempty : name ≠ [] := by
    rintro rfl
    cases named
  have trimmed : (trim path).toList = path.toList := by
    rw [trim, String.toList_ofList]
    apply trimLetters_self
    · intro first member
      rw [written] at member
      cases member
      exact visible
    · intro last member
      rw [written, List.getLast?_append_of_ne_nil _ (by simp),
        List.getLast?_cons_of_ne_nil nonempty] at member
      exact ends last member
  obtain ⟨before, joined⟩ := @join_append (getTraefikBasePath env).toList
    (letter :: rest) name (by simpa [isAbsolute] using relative)
  cases result : sanitizeTraefikPath env path allowEtcTraefik with
  | error message => rfl
  | ok fullPath =>
    obtain ⟨whole, known⟩ := sanitize_ok result
    rw [trimmed, written, joined] at whole
    rw [whole, isConfiguration, extension,
      fileName_append before single named, Option.bind_some, foreign,
      Option.getD_some, other] at known
    cases known

theorem certPath_rejected :
    (sanitizeWritePath env certificate.certPath).isOk = false := by
  have written : certificate.certPath.toList =
      'd' :: (['y', 'n', 'a', 'm', 'i', 'c', '/', 'c', 'e', 'r', 't', 'i', 'f',
        'i', 'c', 'a', 't', 'e', 's', '/'] ++
          certificate.certificatePath.toList) ++
        '/' :: ['c', 'h', 'a', 'i', 'n', '.', 'c', 'r', 't'] := by
    have parts : certificate.certPath.toList = "dynamic/certificates/".toList ++
        certificate.certificatePath.toList ++ "/chain.crt".toList := by
      change ("dynamic/certificates/" ++ certificate.certificatePath ++
        "/chain.crt").toList = _
      simp only [String.toList_append]
    refine parts.trans ?_
    rfl
  exact sanitize_rejects env false written (by decide) (by decide)
    (by simp [isWhiteSpace]) (by decide) (by decide) (by decide +kernel)
    (by decide +kernel)

/-- The files and the directory of a certificate pass the sanitizer. -/
def Certificate.Accessible : Prop :=
  (∀ file ∈ certificate.files, (sanitizeWritePath env file.1).isOk = true) ∧
    (sanitizeWritePath env certificate.directory).isOk = true

theorem certificate_accessible_iff_invalid (env : Environment)
    (certificate : Certificate) :
    (validatePath certificate.certificatePath = .ok () →
        certificate.Accessible env) ↔
      validatePath certificate.certificatePath ≠ .ok () := by
  constructor
  · intro accessible valid
    obtain ⟨files, -⟩ := accessible valid
    have chain := files (certificate.certPath, certificate.certificateData)
      (by simp [Certificate.files])
    rw [certPath_rejected] at chain
    cases chain
  · intro invalid valid
    exact absurd valid invalid

theorem example_certificate_rejected :
    validatePath "example" = .ok () ∧
      ¬ Certificate.Accessible ⟨none, "/etc/openoxide"⟩
        ⟨"chain", "key", "example"⟩ := by
  refine ⟨by decide +kernel, ?_⟩
  intro accessible
  have chain := accessible.1 _ (List.mem_cons_self)
  cases chain

/-- The chain is the first file that is written, so no certificate is ever
installed. -/
theorem Certificate.write_fails (certificate : Certificate) :
    (certificate.write env executor).isOk = false := by
  have rejected := certPath_rejected env certificate
  have chain : ∀ content,
      (writeFile env executor certificate.certPath content).isOk = false := by
    intro content
    rw [writeFile]
    cases result : sanitizeWritePath env certificate.certPath with
    | error message => rfl
    | ok fullPath =>
      rw [result] at rejected
      cases rejected
  have whole : certificate.write env executor =
      validatePath certificate.certificatePath >>= fun _ =>
        writeFile env executor certificate.certPath
          certificate.certificateData >>= fun _ =>
          List.forM [(certificate.keyPath, certificate.privateKey),
            (certificate.configPath, certificate.config)] fun file =>
              writeFile env executor file.1 file.2 := rfl
  rw [whole]
  cases validatePath certificate.certificatePath with
  | error message => rfl
  | ok _ =>
    have failed := chain certificate.certificateData
    cases result : writeFile env executor certificate.certPath
        certificate.certificateData with
    | error message => rfl
    | ok _ =>
      rw [result] at failed
      cases failed

end OpenOxide.Traefik
