import OpenOxide.Shell.Cover
import OpenOxide.WireGuard.Config

/-!
# Reading a configuration back

The file format of `wg-quick`: the settings of the sections under their keys,
lists with commas, numbers, and hooks that a shell runs.  A configuration that
the builders accept reads back as itself exactly when no hook word has a hash,
since a hash cuts the line off even inside quotes.
-/

namespace OpenOxide.WireGuard

open Text Shell Exec

variable (value : List Char)

def listValues : List String :=
  (value.splitOnP (· == ',')).map fun item => String.ofList (stripped item)

def numberValue : Option Nat :=
  if value ≠ [] ∧ value.all Char.isDigit then
    some (Nat.ofDigitChars 10 value 0)
  else none

def tableValue : Option WireGuardRoutingTable :=
  if value = ['a', 'u', 't', 'o'] then some .auto
  else if value = ['o', 'f', 'f'] then some .off
  else (numberValue value).map fun number => .id (UInt32.ofNat number)

/-- The words that a shell runs for a hook. -/
def hookValue : Option Invocation :=
  soleInvocation (String.ofList value)

def required (values : List (List Char)) : Option String :=
  match values with
  | [value] => some (String.ofList value)
  | _ => none

def optional {α : Type} (parse : List Char → Option α)
    (values : List (List Char)) : Option (Option α) :=
  match values with
  | [] => some none
  | [value] => (parse value).map some
  | _ => none

structure Interface where
  privateKey : String
  addresses : List String
  listenPort : Option Nat
  dns : List String
  mtu : Option Nat
  table : Option WireGuardRoutingTable
  preUp : List Invocation
  postUp : List Invocation
  preDown : List Invocation
  postDown : List Invocation
  saveConfig : Bool

structure Peer where
  publicKey : String
  allowedIps : List String
  endpoint : Option String
  persistentKeepalive : Option Nat

structure Reading where
  interface : Interface
  peers : List Peer

def flagValue : Option Bool :=
  if value = ['t', 'r', 'u', 'e'] then some true else none

def readValues (values : InterfaceKey → List (List Char)) :
    Option Interface := do
  let privateKey ← required (values .privateKey)
  let listenPort ← optional numberValue (values .listenPort)
  let mtu ← optional numberValue (values .mtu)
  let table ← optional tableValue (values .table)
  let saveConfig ← optional flagValue (values .saveConfig)
  let preUp ← (values .preUp).mapM hookValue
  let postUp ← (values .postUp).mapM hookValue
  let preDown ← (values .preDown).mapM hookValue
  let postDown ← (values .postDown).mapM hookValue
  return {
    privateKey, listenPort, mtu, table, preUp, postUp, preDown, postDown
    addresses := (values .address).flatMap listValues
    dns := (values .dns).flatMap listValues
    saveConfig := saveConfig.getD false }

def readPeerValues (values : PeerKey → List (List Char)) : Option Peer := do
  let publicKey ← required (values .publicKey)
  let endpoint ← optional (fun value => some (String.ofList value))
    (values .endpoint)
  let persistentKeepalive ←
    optional numberValue (values .persistentKeepalive)
  return {
    publicKey, endpoint, persistentKeepalive
    allowedIps := (values .allowedIps).flatMap listValues }

def readInterface (part : Section) : Option Interface :=
  if part.name = ['I', 'n', 't', 'e', 'r', 'f', 'a', 'c', 'e'] then
    (typed InterfaceKey.order InterfaceKey.text part.settings).bind
      fun settings => readValues (valuesOf settings)
  else none

def readPeer (part : Section) : Option Peer :=
  if part.name = ['P', 'e', 'e', 'r'] then
    (typed PeerKey.order PeerKey.text part.settings).bind fun settings =>
      readPeerValues (valuesOf settings)
  else none

def readConfig (text : List Char) : Option Reading :=
  (readSections text).bind fun parts =>
    match parts with
    | [] => none
    | first :: rest => (readInterface first).bind fun interface =>
      (rest.mapM readPeer).map fun peers => ⟨interface, peers⟩

def WireGuardHook.invocation (hook : WireGuardHook) : Invocation :=
  ⟨[], hook.words⟩

def WireGuardPeer.meant (peer : WireGuardPeer) : Peer where
  publicKey := peer.publicKey
  allowedIps := peer.allowedIps
  endpoint := peer.endpoint
  persistentKeepalive := peer.persistentKeepalive.map UInt16.toNat

variable {formats : Formats}

def WireGuardConfig.meant (config : WireGuardConfig formats) : Reading where
  interface := {
    privateKey := config.privateKey
    addresses := config.addresses
    listenPort := config.listenPort.map UInt16.toNat
    dns := config.dns.map formats.ipText
    mtu := config.mtu.map UInt16.toNat
    table := config.table
    preUp := config.preUp.map WireGuardHook.invocation
    postUp := config.postUp.map WireGuardHook.invocation
    preDown := config.preDown.map WireGuardHook.invocation
    postDown := config.postDown.map WireGuardHook.invocation
    saveConfig := config.saveConfig }
  peers := config.peers.map WireGuardPeer.meant

/-- A configuration that the builders have accepted, with its peers. -/
structure Accepted (formats : Formats) where
  config : WireGuardConfig formats
  valid : config.validate = .ok ()
  built : ∀ peer ∈ config.peers, peer.build formats = .ok peer

/-- A value that stands on a line and is found there. -/
structure Kept (value : List Char) : Prop where
  shown : shownValue value = value
  single : '\n' ∉ value

def isClear (letter : Char) : Bool :=
  !isSpace letter && letter != '#'

variable {value : List Char} {letter : Char} {items : List String}

theorem kept_of_ends (plain : '#' ∉ value) (single : '\n' ∉ value)
    (first : ∀ letter ∈ value.head?, isSpace letter = false)
    (last : ∀ letter ∈ value.getLast?, isSpace letter = false) :
    Kept value := by
  constructor
  · rw [shownValue, uncommented_self plain]
    exact trimLetters_self first last
  · exact single

theorem kept_of_clear (clear : value.all isClear = true) : Kept value := by
  rw [List.all_eq_true] at clear
  have visible : ∀ letter ∈ value, isSpace letter = false := by
    intro letter member
    have known := clear letter member
    rw [isClear, Bool.and_eq_true, Bool.not_eq_true'] at known
    exact known.1
  apply kept_of_ends
  · intro member
    exact absurd (clear _ member) (by decide)
  · intro member
    exact absurd (visible _ member) (by decide)
  · intro letter member
    exact visible letter (List.mem_of_mem_head? member)
  · intro letter member
    exact visible letter (List.mem_of_mem_getLast? member)

/-- The letters that a reader takes away. -/
def unclear : List Char :=
  ['#', ' ', '\t', '\n', '\x0b', '\x0c', '\r']

theorem isClear_of_not_mem (other : letter ∉ unclear) :
    isClear letter = true := by
  rw [isClear, Bool.and_eq_true, Bool.not_eq_true', bne_iff_ne]
  constructor
  · rw [Bool.eq_false_iff]
    intro space
    apply other
    have code : letter.toNat = 32 ∨ letter.toNat = 9 ∨ letter.toNat = 10 ∨
        letter.toNat = 11 ∨ letter.toNat = 12 ∨ letter.toNat = 13 := by
      simp only [isSpace, Bool.or_eq_true, beq_iff_eq, Bool.and_eq_true,
        decide_eq_true_eq] at space
      omega
    have named : letter = Char.ofNat letter.toNat := by
      rw [Char.ofNat_toNat]
    rcases code with equal | equal | equal | equal | equal | equal <;>
      rw [named, equal] <;> decide
  · rintro rfl
    exact other (by decide)

theorem isClear_of_allowed {allowed : Char → Bool}
    (free : unclear.all (fun letter => !allowed letter) = true)
    (known : allowed letter = true) :
    isClear letter = true := by
  apply isClear_of_not_mem
  intro member
  have excluded := List.all_eq_true.mp free letter member
  rw [known] at excluded
  cases excluded

theorem clear_of_letters {allowed : Char → Bool}
    (free : unclear.all (fun letter => !allowed letter) = true)
    (known : value.all allowed = true) :
    value.all isClear = true := by
  rw [List.all_eq_true] at known ⊢
  intro letter member
  exact isClear_of_allowed free (known letter member)

theorem kept_number (number : Nat) : Kept (numberText number) := by
  apply kept_of_clear
  rw [List.all_eq_true]
  intro letter member
  exact isClear_of_allowed (by decide +kernel) (digit_of_mem_natural member)

theorem numberValue_numberText (number : Nat) :
    numberValue (numberText number) = some number := by
  have digits : numberText number = Nat.toDigits 10 number := by
    simp [numberText, toString, Nat.repr]
  rw [numberValue, if_pos, digits,
    Nat.ofDigitChars_toDigits (by decide) (by decide)]
  constructor
  · rw [digits]
    exact Nat.toDigits_ne_nil
  · rw [List.all_eq_true]
    intro letter member
    exact digit_of_mem_natural member

theorem kept_table (table : WireGuardRoutingTable) : Kept table.text := by
  cases table with
  | auto => exact kept_of_clear (by decide)
  | off => exact kept_of_clear (by decide)
  | id value => exact kept_number _

theorem tableValue_text (table : WireGuardRoutingTable) :
    tableValue table.text = some table := by
  cases table with
  | auto => rfl
  | off => rfl
  | id value =>
    have digits : ∀ letter ∈ numberText value.toNat,
        letter.isDigit = true := fun letter member =>
      digit_of_mem_natural member
    have read := numberValue_numberText value.toNat
    rw [tableValue, WireGuardRoutingTable.text, if_neg, if_neg, read]
    · simp
    · intro equal
      rw [equal] at digits
      exact absurd (digits 'o' (by decide)) (by decide)
    · intro equal
      rw [equal] at digits
      exact absurd (digits 'a' (by decide)) (by decide)

/-- An item of a list. -/
def isItem (item : String) : Bool :=
  item.toList != [] && item.toList.all fun letter =>
    isClear letter && letter != ','

theorem listText_cons (first second : String) (items : List String) :
    listText (first :: second :: items) =
      first.toList ++ ',' :: ' ' :: listText (second :: items) := by
  simp [listText, List.intercalate]

theorem item_letters {item : String} (valid : isItem item = true) :
    item.toList ≠ [] ∧ ∀ letter ∈ item.toList,
      isSpace letter = false ∧ letter ≠ '#' ∧ letter ≠ ',' := by
  rw [isItem, Bool.and_eq_true, bne_iff_ne, List.all_eq_true] at valid
  refine ⟨valid.1, ?_⟩
  intro letter member
  have known := valid.2 letter member
  simp only [isClear, Bool.and_eq_true, Bool.not_eq_true', bne_iff_ne]
    at known
  exact ⟨known.1.1, known.1.2, known.2⟩

theorem listValues_listText (nonempty : items ≠ [])
    (valid : ∀ item ∈ items, isItem item = true) :
    listValues (listText items) = items := by
  have alone : ∀ item : String, isItem item = true →
      String.ofList (stripped item.toList) = item ∧
        ∀ letter ∈ item.toList, (letter == ',') = false := by
    intro item known
    obtain ⟨-, letters⟩ := item_letters known
    constructor
    · rw [stripped, trimLetters_self, String.ofList_toList]
      · intro letter member
        exact (letters letter (List.mem_of_mem_head? member)).1
      · intro letter member
        exact (letters letter (List.mem_of_mem_getLast? member)).1
    · intro letter member
      rw [beq_eq_false_iff_ne]
      exact (letters letter member).2.2
  have after : ∀ value : List Char,
      listValues (' ' :: value) = listValues value := by
    intro value
    rw [listValues, listValues, List.splitOnP_cons_eq_if_modifyHead,
      if_neg (by decide)]
    cases value.splitOnP (· == ',') with
    | nil => rfl
    | cons item rest =>
      rw [List.modifyHead_cons, List.map_cons, List.map_cons, stripped_blank]
  induction items with
  | nil => exact absurd rfl nonempty
  | cons item items induction =>
    obtain ⟨whole, single⟩ := alone item (valid item List.mem_cons_self)
    cases items with
    | nil =>
      rw [listText, List.map_singleton, List.intercalate_singleton,
        listValues, List.splitOnP_eq_singleton single, List.map_singleton,
        whole]
    | cons second items =>
      rw [listText_cons, listValues,
        List.splitOnP_append_cons_of_forall_mem single _ (by simp),
        List.map_cons, whole]
      change item :: listValues _ = _
      rw [after, induction (by simp) fun other member =>
        valid other (by simp [member])]

theorem mem_listText (member : letter ∈ listText items) :
    letter = ',' ∨ letter = ' ' ∨ ∃ item ∈ items, letter ∈ item.toList := by
  induction items with
  | nil => cases member
  | cons item items induction =>
    cases items with
    | nil =>
      rw [listText, List.map_singleton, List.intercalate_singleton]
        at member
      exact .inr (.inr ⟨item, List.mem_cons_self, member⟩)
    | cons second items =>
      rw [listText_cons, List.mem_append, List.mem_cons, List.mem_cons]
        at member
      rcases member with here | comma | blank | later
      · exact .inr (.inr ⟨item, List.mem_cons_self, here⟩)
      · exact .inl comma
      · exact .inr (.inl blank)
      · rcases induction later with comma | blank | ⟨other, inside, there⟩
        · exact .inl comma
        · exact .inr (.inl blank)
        · exact .inr (.inr ⟨other, by simp [inside], there⟩)

/-- A list neither begins nor ends with a blank. -/
theorem listText_ends (valid : ∀ item ∈ items, isItem item = true) :
    (∀ letter ∈ (listText items).head?, isSpace letter = false) ∧
      ∀ letter ∈ (listText items).getLast?, isSpace letter = false := by
  induction items with
  | nil => simp [listText, List.intercalate]
  | cons item items induction =>
    obtain ⟨nonempty, letters⟩ := item_letters (valid item List.mem_cons_self)
    have visible : ∀ letter ∈ item.toList, isSpace letter = false :=
      fun letter member => (letters letter member).1
    cases items with
    | nil =>
      rw [listText, List.map_singleton, List.intercalate_singleton]
      exact ⟨fun letter member => visible letter
        (List.mem_of_mem_head? member), fun letter member =>
          visible letter (List.mem_of_mem_getLast? member)⟩
    | cons second items =>
      obtain ⟨-, last⟩ := induction fun other member =>
        valid other (by simp [member])
      have more : listText (second :: items) ≠ [] := by
        obtain ⟨full, -⟩ := item_letters (valid second (by simp))
        cases items with
        | nil =>
          rwa [listText, List.map_singleton, List.intercalate_singleton]
        | cons third items =>
          rw [listText_cons]
          simp
      rw [listText_cons]
      constructor
      · intro letter member
        rw [List.head?_append_of_ne_nil _ nonempty] at member
        exact visible letter (List.mem_of_mem_head? member)
      · intro letter member
        rw [List.getLast?_append_of_ne_nil _ (by simp),
          List.getLast?_cons_of_ne_nil (by simp),
          List.getLast?_cons_of_ne_nil more] at member
        exact last letter member

theorem kept_list
    (valid : ∀ item ∈ items, isItem item = true) : Kept (listText items) := by
  have letters : ∀ item ∈ items, ∀ letter ∈ item.toList,
      isSpace letter = false ∧ letter ≠ '#' := by
    intro item inside letter member
    obtain ⟨-, known⟩ := item_letters (valid item inside)
    exact ⟨(known letter member).1, (known letter member).2.1⟩
  obtain ⟨first, last⟩ := listText_ends valid
  refine kept_of_ends ?_ ?_ first last
  · intro member
    rcases mem_listText member with comma | blank | ⟨item, inside, there⟩
    · cases comma
    · cases blank
    · exact (letters item inside _ there).2 rfl
  · intro member
    rcases mem_listText member with comma | blank | ⟨item, inside, there⟩
    · cases comma
    · cases blank
    · exact absurd (letters item inside _ there).1 (by decide)

namespace WireGuardHook

theorem render_text (hook : WireGuardHook) :
    hook.render.toList = singleQuote hook.program.toList ++
      spaced ((hook.args.map String.toList).map singleQuote) := by
  rw [render, words, List.map_cons, toList_intercalate_blank,
    toList_shellSingleQuote]
  simp [Function.comp_def]

theorem runs (hook : WireGuardHook) :
    soleInvocation hook.render = some hook.invocation := by
  rw [soleInvocation, parse_quoted hook.render_text, ← List.map_cons]
  dsimp only
  rw [Simple.invocation, if_pos rfl]
  rw [List.map_map, Text.mapM_map fun value _ => by simp]
  rfl

/-- No word has a letter that would begin a comment. -/
def isPlain (hook : WireGuardHook) : Bool :=
  hook.words.all fun word => !word.toList.contains '#'

end WireGuardHook

end OpenOxide.WireGuard
