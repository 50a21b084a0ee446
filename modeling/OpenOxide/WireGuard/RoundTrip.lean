import OpenOxide.WireGuard.Format

/-!
# Accepted configurations

What the builders have checked is what the file format needs: every value of an
accepted configuration stands on one line and is found there, except for hooks
with a hash.
-/

namespace OpenOxide.WireGuard

open Text Shell Exec

namespace WireGuardHook

section

variable (hook : WireGuardHook)

include hook

theorem count_render {letter : Char} (quote : letter ≠ '\'')
    (escape : letter ≠ '\\') (blank : letter ≠ ' ') :
    hook.render.toList.count letter = hook.invocation.count letter := by
  have quoted : ∀ values : List String,
      (spaced ((values.map String.toList).map singleQuote)).count letter =
        sumOf (fun value => value.toList.count letter) values := by
    intro values
    induction values with
    | nil => rfl
    | cons value values induction =>
      rw [List.map_cons, List.map_cons, spaced_cons,
        List.count_cons_of_ne (by simpa using blank.symm),
        List.count_append, count_singleQuote quote, if_neg escape,
        induction, sumOf_cons, Nat.add_zero]
  rw [render_text, List.count_append, count_singleQuote quote, if_neg escape,
    quoted, Nat.add_zero, Invocation.count]
  change _ = sumOf _ [] + sumOf _ hook.words
  rw [sumOf_nil, Nat.zero_add, words, sumOf_cons]

theorem count_eq_zero_iff (letter : Char) :
    hook.invocation.count letter = 0 ↔
      ∀ word ∈ hook.words, letter ∉ word.toList := by
  have each : ∀ values : List String,
      sumOf (fun value => value.toList.count letter) values = 0 ↔
        ∀ value ∈ values, letter ∉ value.toList := by
    intro values
    induction values with
    | nil => simp
    | cons value values induction =>
      rw [sumOf_cons, Nat.add_eq_zero_iff, induction, List.count_eq_zero,
        List.forall_mem_cons]
  rw [← each, Invocation.count]
  change sumOf _ [] + _ = 0 ↔ _
  rw [sumOf_nil, Nat.zero_add]
  rfl

theorem isPlain_iff :
    hook.isPlain = true ↔ hook.invocation.count '#' = 0 := by
  rw [count_eq_zero_iff, isPlain, List.all_eq_true]
  simp

theorem single_render :
    '\n' ∉ hook.render.toList := by
  rw [← List.count_eq_zero, hook.count_render (by decide) (by decide)
    (by decide), count_eq_zero_iff]
  intro word member inside
  have valid := hook.checked word member
  rw [validateHookToken, Bool.and_eq_true, List.all_eq_true] at valid
  exact absurd (valid.2 _ inside) (by decide)

end

theorem quoted_ends (first : List Char) (values : List (List Char)) :
    ∃ body, singleQuote first ++ spaced (values.map singleQuote) =
      body ++ ['\''] := by
  induction values generalizing first with
  | nil => exact ⟨'\'' :: escapeQuotes first, by simp [singleQuote, spaced]⟩
  | cons value values induction =>
    obtain ⟨body, equal⟩ := induction value
    refine ⟨singleQuote first ++ ' ' :: body, ?_⟩
    rw [List.map_cons, spaced_cons, equal, List.append_assoc, List.cons_append]

theorem kept_render {hook : WireGuardHook} (plain : hook.isPlain = true) :
    Kept hook.render.toList := by
  apply kept_of_ends
  · rw [← List.count_eq_zero, hook.count_render (by decide) (by decide)
      (by decide)]
    exact hook.isPlain_iff.mp plain
  · exact hook.single_render
  · intro letter member
    rw [render_text, singleQuote] at member
    have equal : '\'' = letter := by simpa using member
    rw [← equal]
    decide
  · intro letter member
    obtain ⟨body, equal⟩ := quoted_ends hook.program.toList
      (hook.args.map String.toList)
    rw [render_text, equal, List.getLast?_append_of_ne_nil _ (by simp)]
      at member
    have quote : '\'' = letter := by simpa using member
    rw [← quote]
    decide

/-- A hook is found on its line exactly when none of its words has a hash. -/
theorem hookValue_shown (hook : WireGuardHook) :
    hookValue (shownValue hook.render.toList) = some hook.invocation ↔
      hook.isPlain = true := by
  constructor
  · intro found
    rw [isPlain_iff]
    have bound := count_le_of_soleInvocation found '#'
    have cut : '#' ∉ shownValue hook.render.toList := by
      intro member
      have inside : '#' ∈ uncommented hook.render.toList := by
        rw [shownValue, stripped, trimLetters, List.mem_reverse] at member
        have before := List.mem_reverse.mp
          ((List.dropWhile_suffix isSpace).subset member)
        exact (List.dropWhile_suffix isSpace).subset before
      exact absurd (List.mem_takeWhile_imp inside) (by decide)
    rw [String.toList_ofList, List.count_eq_zero.mpr cut] at bound
    exact Nat.le_zero.mp bound
  · intro plain
    rw [(kept_render plain).shown, hookValue, String.ofList_toList]
    exact hook.runs

end WireGuardHook

variable {formats : Formats}

theorem throw_ne_ok {ε α : Type} {error : ε} {value : α} {result : Prop}
    (equal : (throw error : Except ε α) = .ok value) : result :=
  absurd equal (by simp [throw, throwThe, MonadExceptOf.throw])

theorem isItem_of_address {text : String} (nonempty : text.toList ≠ [])
    (letters : text.toList.all isAddressLetter = true) :
    isItem text = true := by
  rw [isItem, Bool.and_eq_true, bne_iff_ne, List.all_eq_true]
  refine ⟨nonempty, ?_⟩
  intro letter member
  have known := List.all_eq_true.mp letters letter member
  rw [Bool.and_eq_true, bne_iff_ne]
  constructor
  · exact isClear_of_allowed (by decide +kernel) known
  · rintro rfl
    cases known

theorem isItem_of_net {text : String} {network : formats.Net}
    (parsed : formats.parseNet text = some network) : isItem text = true := by
  obtain ⟨nonempty, letters⟩ := formats.parseNet_letters parsed
  exact isItem_of_address nonempty letters

theorem isItem_ipTexts (ips : List formats.Ip) :
    ∀ item ∈ ips.map formats.ipText, isItem item = true := by
  intro item inside
  obtain ⟨ip, -, rfl⟩ := List.mem_map.mp inside
  obtain ⟨nonempty, letters⟩ := formats.ipText_letters ip
  exact isItem_of_address nonempty letters

theorem kept_key {key : String} (valid : validateKey formats key = true) :
    Kept key.toList := by
  rw [validateKey, Bool.and_eq_true, Option.any_eq_true] at valid
  obtain ⟨-, bytes, decoded, -⟩ := valid
  exact kept_of_clear (clear_of_letters (by decide +kernel)
    (formats.decode_letters decoded))

theorem splitPort_eq {value : List Char} {parts : List Char × List Char}
    (split : splitPort value = some parts) :
    value = parts.1 ++ ':' :: parts.2 := by
  rw [splitPort] at split
  split at split
  next member =>
    cases split
    have rest : value.reverse.dropWhile (· != ':') =
        ':' :: (value.reverse.dropWhile (· != ':')).drop 1 := by
      cases dropped : value.reverse.dropWhile (· != ':') with
      | nil =>
        rw [List.dropWhile_eq_nil_iff] at dropped
        have other := dropped ':' (List.mem_reverse.mpr member)
        cases other
      | cons letter rest =>
        have here := List.head?_dropWhile_not (· != ':') value.reverse
        rw [dropped] at here
        have equal : letter = ':' := by simpa using here
        rw [equal, List.drop_one, List.tail_cons]
    have whole := List.takeWhile_append_dropWhile
      (p := (· != ':')) (l := value.reverse)
    rw [rest] at whole
    have back := congrArg List.reverse whole
    rw [List.reverse_reverse, List.reverse_append, List.reverse_cons,
      List.append_assoc, List.singleton_append] at back
    exact back.symm
  next _ => cases split

/-- The letters of an accepted endpoint. -/
def isEndpointLetter (letter : Char) : Bool :=
  isAddressLetter letter || letter == '-' || letter == '+'

theorem parsePort_letters {text : List Char} {port : Nat}
    (parsed : parsePort text = some port) :
    text.all isEndpointLetter = true := by
  have digit : ∀ letter : Char, letter.isDigit = true →
      isEndpointLetter letter = true := by
    intro letter known
    simp [isEndpointLetter, isAddressLetter, Char.isAlphanum, known]
  have digits : (if text.head? = some '+' then text.drop 1 else text).all
      Char.isDigit = true := by
    by_contra other
    rw [parsePort, parseUnsigned, if_neg (fun known => other known.2)]
      at parsed
    cases parsed
  rw [List.all_eq_true] at digits ⊢
  by_cases signed : text.head? = some '+'
  · rw [if_pos signed] at digits
    cases text with
    | nil => cases signed
    | cons sign rest =>
      have equal : sign = '+' := by simpa using signed
      rw [List.forall_mem_cons, equal]
      exact ⟨by decide, fun letter member =>
        digit letter (digits letter member)⟩
  · rw [if_neg signed] at digits
    exact fun letter member => digit letter (digits letter member)

theorem kept_endpoint {endpoint : String}
    (valid : validateEndpoint formats endpoint = .ok ()) :
    Kept endpoint.toList := by
  have letters : endpoint.toList.all isEndpointLetter = true := by
    simp only [validateEndpoint] at valid
    split at valid
    next _ => exact throw_ne_ok valid
    split at valid
    next known =>
      have address := formats.isSocketAddr_letters known
      rw [List.all_eq_true] at address ⊢
      intro letter member
      rw [isEndpointLetter, address letter member, Bool.true_or, Bool.true_or]
    split at valid
    next _ => exact throw_ne_ok valid
    next parts split =>
      split at valid
      next known =>
        rw [Bool.and_eq_true, Option.any_eq_true] at known
        obtain ⟨host, port, parsed, -⟩ := known
        have named : parts.1.all isEndpointLetter = true := by
          simp only [isHost, Bool.and_eq_true, List.all_eq_true] at host
          rw [List.all_eq_true]
          intro letter member
          have known := host.2 letter member
          simp only [isEndpointLetter, isAddressLetter, Bool.or_eq_true]
            at known ⊢
          tauto
        rw [splitPort_eq split, List.all_append, List.all_cons, named,
          parsePort_letters parsed]
        rfl
      next _ => exact throw_ne_ok valid
  exact kept_of_clear (clear_of_letters (by decide +kernel) letters)

theorem validateAllowedIp_ok {allowed : String} {network : formats.Net}
    (valid : validateAllowedIp formats allowed = .ok network) :
    isItem allowed = true := by
  rw [validateAllowedIp] at valid
  cases parsed : formats.parseNet allowed with
  | none =>
    rw [parsed] at valid
    exact throw_ne_ok valid
  | some network => exact isItem_of_net parsed

theorem ok_of_forM {ε α : Type} {check : α → Except ε Unit} {items : List α}
    (checked : items.forM check = .ok ()) :
    ∀ item ∈ items, check item = .ok () := by
  induction items with
  | nil => simp
  | cons item items induction =>
    have here : (check item >>= fun _ => items.forM check) = .ok () :=
      checked
    cases first : check item with
    | error _ =>
      rw [first] at here
      cases here
    | ok _ =>
      rw [first] at here
      rw [List.forall_mem_cons]
      exact ⟨first, induction here⟩

theorem WireGuardPeer.build_ok {peer : WireGuardPeer}
    (built : peer.build formats = .ok peer) :
    validateKey formats peer.publicKey = true ∧ peer.allowedIps ≠ [] ∧
      (∀ endpoint ∈ peer.endpoint,
        validateEndpoint formats endpoint = .ok ()) ∧
      ∀ allowed ∈ peer.allowedIps, isItem allowed = true := by
  simp only [WireGuardPeer.build, bind, Except.bind, throw, throwThe,
    MonadExceptOf.throw, pure, Except.pure] at built
  split at built
  next _ => cases built
  next key =>
    split at built
    next _ => cases built
    next nonempty =>
      split at built
      next _ => cases built
      next reached =>
        split at built
        next _ => cases built
        next routed =>
          refine ⟨by simpa using key, by simpa using nonempty, ?_, ?_⟩
          · intro endpoint member
            rw [Option.mem_def.mp member] at reached
            exact reached
          · intro allowed member
            have checked := ok_of_forM routed allowed member
            split at checked
            next _ => cases checked
            next _ valid => exact validateAllowedIp_ok valid

theorem validateAddresses_ok {seen addresses : List String}
    (valid : validateAddresses formats seen addresses = .ok ()) :
    ∀ address ∈ addresses, isItem address = true := by
  induction addresses generalizing seen with
  | nil => simp
  | cons address addresses induction =>
    rw [validateAddresses] at valid
    cases parsed : formats.parseNet address with
    | none =>
      rw [parsed] at valid
      exact throw_ne_ok valid
    | some network =>
      rw [parsed] at valid
      dsimp only at valid
      split at valid
      next _ => exact throw_ne_ok valid
      next _ =>
        rw [List.forall_mem_cons]
        exact ⟨isItem_of_net parsed, induction valid⟩

theorem WireGuardConfig.validate_ok {config : WireGuardConfig formats}
    (valid : config.validate = .ok ()) :
    validateKey formats config.privateKey = true ∧ config.addresses ≠ [] ∧
      ∀ address ∈ config.addresses, isItem address = true := by
  simp only [WireGuardConfig.validate, bind, Except.bind, throw, throwThe,
    MonadExceptOf.throw] at valid
  split at valid
  next _ => cases valid
  next key =>
    split at valid
    next _ => cases valid
    next nonempty =>
      split at valid
      next _ => cases valid
      split at valid
      next _ => cases valid
      split at valid
      next _ => cases valid
      next addressed =>
        exact ⟨by simpa using key, by simpa using nonempty,
          validateAddresses_ok addressed⟩

theorem kept_optional {α : Type} {value : Option α} {text : α → List Char}
    (kept : ∀ item ∈ value, Kept (text item)) :
    ∀ shown ∈ value.toList.map text, Kept shown := by
  intro shown member
  obtain ⟨item, inside, rfl⟩ := List.mem_map.mp member
  exact kept item (by simpa using inside)

theorem optional_text {α β : Type} {parse : List Char → Option β}
    {text : α → List Char} {read : α → β} (value : Option α)
    (same : ∀ item ∈ value, parse (text item) = some (read item)) :
    optional parse (value.toList.map text) = some (value.map read) := by
  cases value with
  | none => rfl
  | some item =>
    change (parse (text item)).map some = _
    rw [same item rfl]
    rfl

theorem map_shown {values : List (List Char)}
    (kept : ∀ value ∈ values, Kept value) : values.map shownValue = values := by
  conv_rhs => rw [← List.map_id values]
  exact List.map_congr_left fun value member => (kept value member).shown

namespace WireGuardPeer

variable {peer : WireGuardPeer} (built : peer.build formats = .ok peer)

include built

theorem kept_values (key : PeerKey) :
    ∀ value ∈ peer.values key, Kept value := by
  obtain ⟨keyed, -, reached, routed⟩ := build_ok built
  cases key with
  | publicKey => simpa [values] using kept_key keyed
  | allowedIps => simpa [values] using kept_list routed
  | endpoint =>
    exact kept_optional fun endpoint member =>
      kept_endpoint (reached endpoint member)
  | persistentKeepalive =>
    exact kept_optional fun seconds _ => kept_number seconds.toNat

theorem readPeer_part : readPeer (shownSection peer.part) = some peer.meant := by
  obtain ⟨-, nonempty, -, routed⟩ := build_ok built
  have shown : (fun key => (peer.values key).map shownValue) = peer.values :=
    funext fun key => map_shown (kept_values built key)
  have values : valuesOf (grouped PeerKey.order peer.values) = peer.values := by
    funext key
    exact valuesOf_grouped (by decide) _ (by cases key <;> decide)
  rw [readPeer, shownSection, part, if_pos rfl]
  rw [shown_grouped, shown, typed_grouped (by decide), Option.bind_some, values]
  have keyed : required (peer.values .publicKey) = some peer.publicKey := by
    change some (String.ofList peer.publicKey.toList) = _
    rw [String.ofList_toList]
  have reached : optional (fun value => some (String.ofList value))
      (peer.values .endpoint) = some peer.endpoint := by
    have same := @optional_text _ _ (fun value => some (String.ofList value))
      String.toList id peer.endpoint (by simp)
    rwa [Option.map_id, id] at same
  have alive : optional numberValue (peer.values .persistentKeepalive) =
      some (peer.persistentKeepalive.map UInt16.toNat) :=
    optional_text _ fun seconds _ => numberValue_numberText _
  have routes : (peer.values .allowedIps).flatMap listValues =
      peer.allowedIps := by
    change [listText peer.allowedIps].flatMap listValues = _
    rw [List.flatMap_singleton, listValues_listText nonempty routed]
  rw [readPeerValues, keyed, reached, alive, routes]
  rfl

end WireGuardPeer

theorem mapM_hooks (hooks : List WireGuardHook) :
    ((hooks.map fun hook => hook.render.toList).map shownValue).mapM
        hookValue = some (hooks.map WireGuardHook.invocation) ↔
      ∀ hook ∈ hooks, hook.isPlain = true := by
  rw [List.map_map, mapM_map_iff]
  exact forall₂_congr fun hook _ => hook.hookValue_shown

def InterfaceKey.isHook : InterfaceKey → Bool
  | .preUp | .postUp | .preDown | .postDown => true
  | _ => false

namespace WireGuardConfig

/-- The commands of a configuration. -/
def hooks (config : WireGuardConfig formats) : List WireGuardHook :=
  config.preUp ++ config.postUp ++ config.preDown ++ config.postDown

variable {config : WireGuardConfig formats} (valid : config.validate = .ok ())

include valid

theorem kept_values {key : InterfaceKey} (other : key.isHook = false) :
    ∀ value ∈ config.values key, Kept value := by
  obtain ⟨keyed, -, addressed⟩ := validate_ok valid
  cases key with
  | privateKey => simpa [values] using kept_key keyed
  | address => simpa [values] using fun _ => kept_list addressed
  | listenPort => exact kept_optional fun port _ => kept_number port.toNat
  | dns => simpa [values] using fun _ => kept_list (isItem_ipTexts config.dns)
  | mtu => exact kept_optional fun mtu _ => kept_number mtu.toNat
  | table => exact kept_optional fun table _ => kept_table table
  | saveConfig => simpa [values] using fun _ => kept_of_clear (by decide)
  | preUp | postUp | preDown | postDown =>
    cases other

theorem formed_interface : config.interface.WellFormed := by
  have rendered : ∀ hooks : List WireGuardHook,
      ∀ value ∈ hooks.map fun hook => hook.render.toList, '\n' ∉ value := by
    intro hooks value member
    obtain ⟨hook, -, rfl⟩ := List.mem_map.mp member
    exact hook.single_render
  apply formed_grouped (by decide) (by decide)
  intro key
  by_cases hooked : key.isHook = true
  · cases key with
    | preUp => exact rendered config.preUp
    | postUp => exact rendered config.postUp
    | preDown => exact rendered config.preDown
    | postDown => exact rendered config.postDown
    | _ => cases hooked
  · intro value member
    exact (kept_values valid (Bool.eq_false_iff.mpr hooked) value
      member).single

omit valid in
theorem readInterface_shown :
    readInterface (shownSection config.interface) =
      readValues fun key => (config.values key).map shownValue := by
  have values : valuesOf (grouped InterfaceKey.order fun key =>
      (config.values key).map shownValue) =
        fun key => (config.values key).map shownValue := by
    funext key
    exact valuesOf_grouped (by decide) _ (by cases key <;> decide)
  rw [readInterface, shownSection, interface, if_pos rfl]
  rw [shown_grouped, typed_grouped (by decide), Option.bind_some, values]

theorem readInterface_iff :
    readInterface (shownSection config.interface) =
        some config.meant.interface ↔
      ∀ hook ∈ config.hooks, hook.isPlain = true := by
  obtain ⟨-, nonempty, addressed⟩ := validate_ok valid
  have kept : ∀ key : InterfaceKey, key.isHook = false →
      (config.values key).map shownValue = config.values key :=
    fun key other => map_shown (kept_values valid other)
  have keyed : required (config.values .privateKey) =
      some config.privateKey := by
    change some (String.ofList config.privateKey.toList) = _
    rw [String.ofList_toList]
  have port : optional numberValue (config.values .listenPort) =
      some (config.listenPort.map UInt16.toNat) :=
    optional_text _ fun port _ => numberValue_numberText _
  have size : optional numberValue (config.values .mtu) =
      some (config.mtu.map UInt16.toNat) :=
    optional_text _ fun mtu _ => numberValue_numberText _
  have table : optional tableValue (config.values .table) =
      some config.table := by
    have same := @optional_text _ _ tableValue WireGuardRoutingTable.text id
      config.table fun table _ => tableValue_text table
    rwa [Option.map_id, id] at same
  have saved : (optional flagValue (config.values .saveConfig)).map
      (fun flag => flag.getD false) = some config.saveConfig := by
    rw [values]
    cases config.saveConfig <;> rfl
  have addresses : (config.values .address).flatMap listValues =
      config.addresses := by
    rw [values, if_neg (by simpa using nonempty), List.flatMap_singleton,
      listValues_listText nonempty addressed]
  have names : (config.values .dns).flatMap listValues =
      config.dns.map formats.ipText := by
    rw [values]
    cases config.dns with
    | nil => rfl
    | cons ip rest =>
      rw [if_neg (by simp), List.flatMap_singleton,
        listValues_listText (by simp) (isItem_ipTexts _)]
  obtain ⟨flag, read, flagged⟩ := Option.map_eq_some_iff.mp saved
  rw [readInterface_shown, readValues, kept .privateKey rfl,
    kept .listenPort rfl, kept .mtu rfl,
    kept .table rfl, kept .saveConfig rfl, kept .address rfl, kept .dns rfl,
    keyed, port, size, table, read, addresses, names, hooks,
    List.forall_mem_append, List.forall_mem_append, List.forall_mem_append,
    ← mapM_hooks, ← mapM_hooks, ← mapM_hooks, ← mapM_hooks]
  simp only [Option.bind_eq_bind, Option.bind_some, Option.bind_eq_some_iff,
    flagged]
  constructor
  · rintro ⟨preUp, first, postUp, second, preDown, third, postDown, fourth,
      equal⟩
    obtain ⟨-, -, -, -, -, -, rfl, rfl, rfl, rfl, -⟩ :=
      Interface.mk.inj (Option.some.inj equal)
    exact ⟨⟨⟨first, second⟩, third⟩, fourth⟩
  · rintro ⟨⟨⟨first, second⟩, third⟩, fourth⟩
    exact ⟨_, first, _, second, _, third, _, fourth, rfl⟩

end WireGuardConfig

namespace Accepted

variable (accepted : Accepted formats)

/-- The peers are always found; the interface is as it stands in the file. -/
theorem readConfig_render :
    readConfig accepted.config.render =
      (readInterface (shownSection accepted.config.interface)).map
        fun interface => ⟨interface, accepted.config.meant.peers⟩ := by
  have formed : ∀ part ∈ accepted.config.interface ::
      accepted.config.peers.map WireGuardPeer.part, part.WellFormed := by
    rw [List.forall_mem_cons]
    refine ⟨WireGuardConfig.formed_interface accepted.valid, ?_⟩
    intro part member
    obtain ⟨peer, inside, rfl⟩ := List.mem_map.mp member
    exact formed_grouped (by decide) (by decide) fun key value member =>
      (WireGuardPeer.kept_values (accepted.built peer inside) key value
        member).single
  rw [WireGuardConfig.render, readConfig, readSections_sectionsText formed,
    Option.bind_some, List.map_cons]
  dsimp only
  have peers := mapM_map_iff.mpr fun peer inside =>
    WireGuardPeer.readPeer_part (accepted.built peer inside)
  rw [List.map_map, Function.comp_def, peers]
  cases readInterface (shownSection accepted.config.interface) with
  | none => rfl
  | some interface => rfl

theorem found_iff :
    readConfig accepted.config.render = some accepted.config.meant ↔
      readInterface (shownSection accepted.config.interface) =
        some accepted.config.meant.interface := by
  rw [readConfig_render]
  cases readInterface (shownSection accepted.config.interface) with
  | none => simp
  | some interface =>
    constructor
    · intro equal
      exact congrArg some (Reading.mk.inj (Option.some.inj equal)).1
    · intro equal
      rw [Option.some.inj equal]
      rfl

/-- An accepted configuration reads back as what is meant exactly when no word
of a hook has a hash. -/
theorem readConfig_iff_hooks_plain :
    readConfig accepted.config.render = some accepted.config.meant ↔
      ∀ hook ∈ accepted.config.hooks, hook.isPlain = true := by
  rw [accepted.found_iff]
  exact WireGuardConfig.readInterface_iff accepted.valid

end Accepted

/-- Formats that accept one network and one key. -/
def sampleFormats : Formats where
  Net := Unit
  parseNet text := if text = "10.77.1.1/24" then some () else none
  prefixLen _ := 24
  netText _ := "10.77.1.1/24"
  trunc network := network
  Ip := Unit
  ipText _ := "1.1.1.1"
  isSocketAddr _ := false
  decode text :=
    if text = "DM5qhLAE20PG9BbfBCger+Ac9D2NDOwCtY1rbYDLf34=" then
      some (List.replicate 32 0)
    else none
  parseNet_letters := by
    intro text network parsed
    split at parsed
    next equal =>
      rw [equal]
      exact ⟨by decide, by decide⟩
    next _ => cases parsed
  ipText_letters _ := ⟨by decide, by decide⟩
  isSocketAddr_letters known := absurd known (by decide)
  decode_letters := by
    intro text bytes decoded
    split at decoded
    next equal =>
      rw [equal]
      decide
    next _ => cases decoded

/-- An interface that prints a word with a hash when it is up. -/
def echoing : Accepted sampleFormats where
  config := {
    privateKey := "DM5qhLAE20PG9BbfBCger+Ac9D2NDOwCtY1rbYDLf34="
    addresses := ["10.77.1.1/24"]
    listenPort := none
    dns := []
    mtu := none
    table := none
    preUp := []
    postUp := [⟨"echo", ["a#b"], by decide⟩]
    preDown := []
    postDown := []
    saveConfig := false
    peers := [] }
  valid := by decide
  built := by simp

/-- The line of the hook ends inside its quotes. -/
theorem echoing_not_read :
    readConfig echoing.config.render ≠ some echoing.config.meant := by
  rw [ne_eq, echoing.found_iff, WireGuardConfig.readInterface_iff echoing.valid]
  intro plain
  have hook := plain ⟨"echo", ["a#b"], by decide⟩ (by
    simp [WireGuardConfig.hooks, echoing])
  cases hook

end OpenOxide.WireGuard
