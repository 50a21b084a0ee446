import OpenOxide.Exec.Command
import OpenOxide.Text.Sections

/-!
# WireGuard configurations

The builders check keys, addresses, endpoints and hook words, and a configuration
that they accept is rendered as a file of sections: one for the interface and
one for each peer.
-/

namespace OpenOxide.WireGuard

open Text Exec

/-- The letters of addresses, networks and socket addresses. -/
def isAddressLetter (letter : Char) : Bool :=
  letter.isAlphanum || letter == '.' || letter == ':' || letter == '/' ||
    letter == '[' || letter == ']' || letter == '%'

/-- The letters of a key. -/
def isKeyLetter (letter : Char) : Bool :=
  letter.isAlphanum || letter == '+' || letter == '/' || letter == '='

/-- The parsers of the libraries that the builders call, with the letters that
they accept and print. -/
structure Formats where
  Net : Type
  parseNet : String → Option Net
  prefixLen : Net → Nat
  netText : Net → String
  trunc : Net → Net
  Ip : Type
  ipText : Ip → String
  isSocketAddr : String → Bool
  decode : String → Option (List UInt8)
  parseNet_letters : ∀ {text net}, parseNet text = some net →
    text.toList ≠ [] ∧ text.toList.all isAddressLetter = true
  ipText_letters : ∀ ip,
    (ipText ip).toList ≠ [] ∧ (ipText ip).toList.all isAddressLetter = true
  isSocketAddr_letters : ∀ {text}, isSocketAddr text = true →
    text.toList.all isAddressLetter = true
  decode_letters : ∀ {text bytes}, decode text = some bytes →
    text.toList.all isKeyLetter = true

/-- What validation refuses. -/
inductive WireGuardConfigError where
  | invalidPrivateKey
  | invalidPublicKey
  | missingAddress
  | duplicateAddress (address : String)
  | invalidListenPort
  | invalidMtu
  | invalidHook
  | invalidAddress (address : String)
  | invalidAllowedIp (allowed : String)
  | defaultRouteNotAllowed
  | duplicateAllowedIp (allowed : String)
  | duplicatePeerPublicKey
  | missingAllowedIps
  | invalidEndpoint
deriving DecidableEq

/-- A word of a hook stays on its line. -/
def validateHookToken (value : String) : Bool :=
  !value.isEmpty && value.toList.all fun letter =>
    letter != '\n' && letter != '\r' && letter != '\x00'

/-- A command with words that the builder has checked. -/
structure WireGuardHook where
  program : String
  args : List String
  checked : ∀ word ∈ program :: args, validateHookToken word = true

namespace WireGuardHook

/-- A hook without arguments. -/
def new (program : String) : Except WireGuardConfigError WireGuardHook :=
  if valid : validateHookToken program = true then
    return ⟨program, [], by simpa using valid⟩
  else throw .invalidHook

/-- One more argument. -/
def arg (hook : WireGuardHook) (value : String) :
    Except WireGuardConfigError WireGuardHook :=
  if valid : validateHookToken value = true then
    return ⟨hook.program, hook.args ++ [value], by
      intro word member
      rw [← List.cons_append, List.mem_append] at member
      rcases member with before | last
      · exact hook.checked word before
      · rwa [List.mem_singleton.mp last]⟩
  else throw .invalidHook

/-- The command of a hook. -/
def words (hook : WireGuardHook) : List String :=
  hook.program :: hook.args

/-- The hook as it is written. -/
def render (hook : WireGuardHook) : String :=
  " ".intercalate (hook.words.map shellSingleQuote)

end WireGuardHook

section Checks

variable (formats : Formats)

/-- 32 bytes in base 64. -/
def validateKey (value : String) : Bool :=
  !value.toList.any isWhiteSpace &&
    (formats.decode value).any fun bytes => bytes.length == 32

def parsePort (text : List Char) : Option Nat :=
  parseUnsigned 65536 text

/-- A host name. -/
def isHost (host : List Char) : Bool :=
  !host.isEmpty && host.length ≤ 253 && host.head? != some '-' &&
    host.getLast? != some '-' &&
    host.all fun letter => letter.isAlphanum || letter == '.' || letter == '-'

/-- The parts before and after the last colon. -/
def splitPort (value : List Char) : Option (List Char × List Char) :=
  if ':' ∈ value then
    some (((value.reverse.dropWhile (· != ':')).drop 1).reverse,
      (value.reverse.takeWhile (· != ':')).reverse)
  else none

/-- An address or a host, and a port. -/
def validateEndpoint (value : String) : Except WireGuardConfigError Unit :=
  if value.isEmpty || value.toList.any isWhiteSpace then throw .invalidEndpoint
  else if formats.isSocketAddr value then return ()
  else
    match splitPort value.toList with
    | none => throw .invalidEndpoint
    | some parts =>
      if isHost parts.1 && (parsePort parts.2).any (· != 0) then return ()
      else throw .invalidEndpoint

structure WireGuardPeer where
  publicKey : String
  allowedIps : List String
  endpoint : Option String
  persistentKeepalive : Option UInt16

/-- A network, but no default route. -/
def validateAllowedIp (allowed : String) :
    Except WireGuardConfigError formats.Net :=
  match formats.parseNet allowed with
  | none => throw (.invalidAllowedIp allowed)
  | some network =>
    if formats.prefixLen network = 0 then throw .defaultRouteNotAllowed
    else return network

/-- What the peer builder accepts. -/
def WireGuardPeer.build (peer : WireGuardPeer) :
    Except WireGuardConfigError WireGuardPeer := do
  if !validateKey formats peer.publicKey then throw .invalidPublicKey
  if peer.allowedIps.isEmpty then throw .missingAllowedIps
  peer.endpoint.forM (validateEndpoint formats)
  peer.allowedIps.forM fun allowed => do
    let _ ← validateAllowedIp formats allowed
  return peer

/-- The `Table` setting. -/
inductive WireGuardRoutingTable where
  | auto
  | off
  | id (value : UInt32)

structure WireGuardConfig where
  privateKey : String
  addresses : List String
  listenPort : Option UInt16
  dns : List formats.Ip
  mtu : Option UInt16
  table : Option WireGuardRoutingTable
  preUp : List WireGuardHook
  postUp : List WireGuardHook
  preDown : List WireGuardHook
  postDown : List WireGuardHook
  saveConfig : Bool
  peers : List WireGuardPeer

/-- The addresses, with those seen before. -/
def validateAddresses : List String → List String →
    Except WireGuardConfigError Unit
  | _, [] => return ()
  | seen, address :: addresses =>
    match formats.parseNet address with
    | none => throw (.invalidAddress address)
    | some network =>
      if formats.netText network ∈ seen then
        throw (.duplicateAddress (formats.netText network))
      else validateAddresses (formats.netText network :: seen) addresses

/-- The routes of one peer, with those of all peers before. -/
def validateRoutes : List String → List String →
    Except WireGuardConfigError (List String)
  | routes, [] => return routes
  | routes, allowed :: rest => do
      let network ← validateAllowedIp formats allowed
      let canonical := formats.netText (formats.trunc network)
      if canonical ∈ routes then throw (.duplicateAllowedIp canonical)
      validateRoutes (canonical :: routes) rest

/-- No key and no route twice. -/
def validatePeers : List String → List String → List WireGuardPeer →
    Except WireGuardConfigError Unit
  | _, _, [] => return ()
  | routes, publicKeys, peer :: peers => do
      if !validateKey formats peer.publicKey then throw .invalidPublicKey
      if peer.publicKey ∈ publicKeys then throw .duplicatePeerPublicKey
      if peer.allowedIps.isEmpty then throw .missingAllowedIps
      peer.endpoint.forM (validateEndpoint formats)
      let routes ← validateRoutes formats routes peer.allowedIps
      validatePeers routes (peer.publicKey :: publicKeys) peers

variable {formats}

/-- All checks of a configuration. -/
def WireGuardConfig.validate (config : WireGuardConfig formats) :
    Except WireGuardConfigError Unit := do
  if !validateKey formats config.privateKey then throw .invalidPrivateKey
  if config.addresses.isEmpty then throw .missingAddress
  if config.listenPort = some 0 then throw .invalidListenPort
  if config.mtu = some 0 then throw .invalidMtu
  validateAddresses formats [] config.addresses
  validatePeers formats [] [] config.peers

end Checks

/-- The keys of the interface section, in the order of the file. -/
inductive InterfaceKey where
  | privateKey
  | address
  | listenPort
  | dns
  | mtu
  | table
  | preUp
  | postUp
  | preDown
  | postDown
  | saveConfig
deriving DecidableEq

def InterfaceKey.text : InterfaceKey → List Char
  | .privateKey => ['P', 'r', 'i', 'v', 'a', 't', 'e', 'K', 'e', 'y']
  | .address => ['A', 'd', 'd', 'r', 'e', 's', 's']
  | .listenPort => ['L', 'i', 's', 't', 'e', 'n', 'P', 'o', 'r', 't']
  | .dns => ['D', 'N', 'S']
  | .mtu => ['M', 'T', 'U']
  | .table => ['T', 'a', 'b', 'l', 'e']
  | .preUp => ['P', 'r', 'e', 'U', 'p']
  | .postUp => ['P', 'o', 's', 't', 'U', 'p']
  | .preDown => ['P', 'r', 'e', 'D', 'o', 'w', 'n']
  | .postDown => ['P', 'o', 's', 't', 'D', 'o', 'w', 'n']
  | .saveConfig => ['S', 'a', 'v', 'e', 'C', 'o', 'n', 'f', 'i', 'g']

/-- The settings in the order of the file. -/
def InterfaceKey.order : List InterfaceKey :=
  [.privateKey, .address, .listenPort, .dns, .mtu, .table, .preUp, .postUp,
    .preDown, .postDown, .saveConfig]

/-- The settings of a peer. -/
inductive PeerKey where
  | publicKey
  | allowedIps
  | endpoint
  | persistentKeepalive
deriving DecidableEq

def PeerKey.text : PeerKey → List Char
  | .publicKey => ['P', 'u', 'b', 'l', 'i', 'c', 'K', 'e', 'y']
  | .allowedIps => ['A', 'l', 'l', 'o', 'w', 'e', 'd', 'I', 'P', 's']
  | .endpoint => ['E', 'n', 'd', 'p', 'o', 'i', 'n', 't']
  | .persistentKeepalive =>
    ['P', 'e', 'r', 's', 'i', 's', 't', 'e', 'n', 't', 'K', 'e', 'e', 'p',
      'a', 'l', 'i', 'v', 'e']

/-- The settings in the order of the file. -/
def PeerKey.order : List PeerKey :=
  [.publicKey, .allowedIps, .endpoint, .persistentKeepalive]

def listText (items : List String) : List Char :=
  List.intercalate [',', ' '] (items.map String.toList)

def numberText (number : Nat) : List Char :=
  (toString number).toList

def WireGuardRoutingTable.text : WireGuardRoutingTable → List Char
  | .auto => ['a', 'u', 't', 'o']
  | .off => ['o', 'f', 'f']
  | .id value => numberText value.toNat

variable {formats : Formats}

/-- The values under a key of the interface, one for each line. -/
def WireGuardConfig.values (config : WireGuardConfig formats) :
    InterfaceKey → List (List Char)
  | .privateKey => [config.privateKey.toList]
  | .address =>
    if config.addresses.isEmpty then [] else [listText config.addresses]
  | .listenPort => config.listenPort.toList.map fun port => numberText port.toNat
  | .dns =>
    if config.dns.isEmpty then []
    else [listText (config.dns.map formats.ipText)]
  | .mtu => config.mtu.toList.map fun mtu => numberText mtu.toNat
  | .table => config.table.toList.map WireGuardRoutingTable.text
  | .preUp => config.preUp.map fun hook => hook.render.toList
  | .postUp => config.postUp.map fun hook => hook.render.toList
  | .preDown => config.preDown.map fun hook => hook.render.toList
  | .postDown => config.postDown.map fun hook => hook.render.toList
  | .saveConfig => if config.saveConfig then [['t', 'r', 'u', 'e']] else []

/-- The values of a setting. -/
def WireGuardPeer.values (peer : WireGuardPeer) : PeerKey → List (List Char)
  | .publicKey => [peer.publicKey.toList]
  | .allowedIps => [listText peer.allowedIps]
  | .endpoint => peer.endpoint.toList.map String.toList
  | .persistentKeepalive =>
    peer.persistentKeepalive.toList.map fun seconds =>
      numberText seconds.toNat

/-- The section of the interface. -/
def WireGuardConfig.interface (config : WireGuardConfig formats) : Section where
  name := ['I', 'n', 't', 'e', 'r', 'f', 'a', 'c', 'e']
  settings := (grouped InterfaceKey.order config.values).map fun setting =>
    (setting.1.text, setting.2)

/-- The section of a peer. -/
def WireGuardPeer.part (peer : WireGuardPeer) : Section where
  name := ['P', 'e', 'e', 'r']
  settings := (grouped PeerKey.order peer.values).map fun setting =>
    (setting.1.text, setting.2)

/-- The whole file. -/
def WireGuardConfig.render (config : WireGuardConfig formats) : List Char :=
  sectionsText (config.interface :: config.peers.map WireGuardPeer.part)

end OpenOxide.WireGuard
