import SiteConfig.Mapping.Flatten
import SiteConfig.Proofs.Mapping.Expansion
import SiteConfig.Proofs.Network.Encoding

/-!
# What flattening a body establishes

- `Rule.Sends rule net`: the rule is one that expanding sends, and `net` is its network.
- `Network.restriction`: the access rule that a user would write for a network, which is what
  flattening makes of a rule that sends it (`Body.flattenRule_eq`).
- `Rule.FlattensTo rule flat`: what flattening makes of any access rule; one case for each form of
  its address. `Body.flattenRule_eq_ok_iff`: it succeeds exactly then.
- `Body.flatten_eq_ok_iff`: flattening succeeds exactly when it does on the access rules, and then
  everything else is copied.
- `Body.exists_flattenOption_iff`, `Body.flattenOption_eq_error`: it fails on a malformed network
  and on nothing else.
-/

namespace SiteConfig

/-- The rule is one that expanding sends: the text of a network, and a blank mask. -/
def Rule.Sends (rule : Rule) (net : Network) : Prop :=
  ∃ c, rule = ⟨some c, some ""⟩ ∧ Network.parse? c.toList = some net

/-- The access rule that a user would write for a network. -/
def Network.restriction (net : Network) : Restriction :=
  ⟨String.ofList net.address.text, .given (String.ofList net.mask.text)⟩

/-- The access rule that is sent for a network: its own text, and a blank mask. -/
def Network.rule (net : Network) : Rule :=
  ⟨some (String.ofList net.text), some ""⟩

/-- What is sent for the access rule of a network is the network's own text. -/
theorem Network.cidr_restriction {net : Network} (h : net.length ≤ Mask.maxPrefix) :
    net.restriction.cidr = .ok (String.ofList net.text) :=
  Cidr.encode_text (Mask.hasLength_ofLength h)

/-! ## Access rules that are sent -/

namespace Rule

theorem Sends.length_le {rule : Rule} {net : Network} (h : rule.Sends net) :
    net.length ≤ Mask.maxPrefix := by
  obtain ⟨c, -, hnet⟩ := h
  exact Network.length_le_of_parse? hnet

/-- A rule sends one network at most. -/
theorem Sends.unique {rule : Rule} {net net' : Network} (h : rule.Sends net)
    (h' : rule.Sends net') : net = net' := by
  obtain ⟨c, rfl, hnet⟩ := h
  obtain ⟨c', heq, hnet'⟩ := h'
  cases heq
  exact Option.some.inj (hnet.symm.trans hnet')

theorem sends_text {net : Network} (h : net.length ≤ Mask.maxPrefix) : net.rule.Sends net := by
  refine ⟨_, rfl, ?_⟩
  rw [String.toList_ofList]
  exact Network.parse?_text h

end Rule

/-- Expanding an access rule sends the network that its address and its mask stand for. -/
theorem Block.expandRule_eq_ok_iff_encodes {i : Nat} {rule : Restriction} {sent : Rule} :
    expandRule i rule = .ok sent ↔
      ∃ c net, Cidr.Encodes rule.ipAddress rule.effectiveMask c net ∧
        sent = ⟨some c, some ""⟩ := by
  rw [expandRule_eq_ok_iff]
  unfold Restriction.cidr
  simp only [Cidr.encode_eq_ok_iff, exists_and_right]

/-- Whatever expanding sends, it sends networks. -/
theorem Block.sends_of_traverse {restrictions : List Restriction} {rules : List Rule}
    (h : Indexed.traverse expandRule restrictions = .ok rules) :
    ∀ sent ∈ rules, ∃ net, sent.Sends net := by
  intro sent hsent
  obtain ⟨i, rule, -, hexpand⟩ := Indexed.exists_of_mem_traverse h hsent
  obtain ⟨c, net, hencodes, rfl⟩ := expandRule_eq_ok_iff_encodes.mp hexpand
  exact ⟨net, c, rfl, hencodes.parse?⟩

/-! ## Flattening -/

namespace Rule

/-- The mask that an older record keeps apart from the address. An empty one does not count. -/
def mask? (rule : Rule) : Option String :=
  rule.subnetMask.filter (· ≠ "")

theorem ne_of_mask? {rule : Rule} {mask : String} (h : rule.mask? = some mask) : mask ≠ "" := by
  have hkept := (Option.filter_eq_some_iff.mp h).2
  rwa [decide_eq_true_eq] at hkept

/-- What flattening makes of an access rule, one case for each form of its address. Only a network
is looked at; an address without a slash and a mask are passed on as they are. -/
inductive FlattensTo (rule : Rule) : Restriction → Prop
  | absent (hip : rule.ipAddress = none) : FlattensTo rule ⟨"", .ofOption rule.mask?⟩
  | bare {ip : String} (hip : rule.ipAddress = some ip) (hslash : '/' ∉ ip.toList) :
      FlattensTo rule ⟨ip, .ofOption rule.mask?⟩
  | network {ip : String} {net : Network} (hip : rule.ipAddress = some ip)
      (hnet : Network.parse? ip.toList = some net) :
      FlattensTo rule ⟨String.ofList net.address.text,
        .ofOption (some (rule.mask?.getD (String.ofList net.mask.text)))⟩

/-- No prefix is left behind an address. -/
theorem FlattensTo.slash_not_mem {rule : Rule} {flat : Restriction} (h : rule.FlattensTo flat) :
    '/' ∉ flat.ipAddress.toList := by
  cases h with
  | absent => exact List.not_mem_nil
  | bare _ hslash => exact hslash
  | network =>
    rw [String.toList_ofList]
    exact Address.slash_not_mem_text _

theorem Sends.flattensTo {rule : Rule} {net : Network} (h : rule.Sends net) :
    rule.FlattensTo net.restriction := by
  obtain ⟨c, rfl, hnet⟩ := h
  exact .network rfl hnet

/-- The rules of networks send these networks. -/
theorem forall₂_sends_rule {nets : List Network}
    (h : ∀ net ∈ nets, net.length ≤ Mask.maxPrefix) :
    List.Forall₂ Sends (nets.map Network.rule) nets := by
  rw [List.forall₂_map_left_iff, List.forall₂_same]
  exact fun net hnet => sends_text (h net hnet)

end Rule

namespace Body

theorem flattenRule_eq_ok_iff {i : Nat} {rule : Rule} {flat : Restriction} :
    flattenRule i rule = .ok flat ↔ rule.FlattensTo flat := by
  unfold flattenRule
  constructor
  · intro h
    split at h
    · next hip =>
      cases h
      exact .absent hip
    · next ip hip =>
      split at h
      · next pair hpair =>
        cases h
        cases Cidr.decode_eq_ok_iff.mp hpair with
        | network hnet => exact .network hip hnet
        | bare hslash => exact .bare hip hslash
      · cases h
  · intro h
    cases h with
    | absent hip =>
      rw [hip]
      rfl
    | bare hip hslash =>
      rw [hip]
      simp only [Cidr.decode_of_not_mem hslash]
      rfl
    | network hip hnet =>
      rw [hip]
      simp only [Cidr.decode_of_parse? hnet]
      rfl

theorem flattenRule_eq {sent : Rule} {net : Network} (h : sent.Sends net) (i : Nat) :
    flattenRule i sent = .ok net.restriction :=
  flattenRule_eq_ok_iff.mpr h.flattensTo

theorem traverse_flattenRule_eq_ok_iff {rules : List Rule} {flats : List Restriction} :
    Indexed.traverse flattenRule rules = .ok flats ↔ List.Forall₂ Rule.FlattensTo rules flats :=
  Indexed.traverse_eq_ok_iff_forall₂ (f := flattenRule) fun _ _ _ => flattenRule_eq_ok_iff

/-- Rules that send networks flatten to what a user would write for these. -/
theorem traverse_flattenRule_of_sends {rules : List Rule} {nets : List Network}
    (h : List.Forall₂ Rule.Sends rules nets) :
    Indexed.traverse flattenRule rules = .ok (nets.map Network.restriction) := by
  rw [traverse_flattenRule_eq_ok_iff, List.forall₂_map_right_iff]
  exact h.imp fun _ _ hsends => hsends.flattensTo

/-- Rules that are sent flatten to those of their networks, in order. -/
theorem exists_traverse_flattenRule {rules : List Rule}
    (h : ∀ sent ∈ rules, ∃ net, sent.Sends net) :
    ∃ restrictions, Indexed.traverse flattenRule rules = .ok restrictions ∧
      restrictions.length = rules.length ∧
      ∀ (i : Nat) (sent : Rule), rules[i]? = some sent →
        ∃ net, sent.Sends net ∧ restrictions[i]? = some net.restriction := by
  have hrun : ∃ restrictions, Indexed.traverse flattenRule rules = .ok restrictions := by
    refine Indexed.exists_traverse_eq_ok fun i sent hsent => ?_
    obtain ⟨net, hnet⟩ := h sent (List.mem_of_getElem? hsent)
    exact ⟨_, flattenRule_eq hnet i⟩
  obtain ⟨restrictions, hrun⟩ := hrun
  obtain ⟨hlength, hitems⟩ := (Indexed.traverse_eq_ok_iff _ _ _).mp hrun
  refine ⟨restrictions, hrun, hlength, fun i sent hsent => ?_⟩
  obtain ⟨net, hnet⟩ := h sent (List.mem_of_getElem? hsent)
  obtain ⟨restriction, hi, hflat⟩ := hitems i sent hsent
  rw [flattenRule_eq hnet] at hflat
  cases hflat
  exact ⟨net, hnet, hi⟩

/-- The block with a body's values, for given access rules. -/
def blockWith (body : Body) (rules : List Restriction) : Block where
  alwaysOn := .ofOption body.alwaysOn
  defaultDocuments := body.defaultDocuments.getD []
  dotnetFrameworkVersion := .ofOption body.netFrameworkVersion
  http2Enabled := .ofOption body.http20Enabled
  ipRestriction := rules
  javaVersion := .ofOption body.javaVersion
  javaContainer := .ofOption body.javaContainer
  javaContainerVersion := .ofOption body.javaContainerVersion
  localMysqlEnabled := .ofOption body.localMySqlEnabled
  managedPipelineMode := .given body.managedPipelineMode.text
  phpVersion := .ofOption body.phpVersion
  pythonVersion := .ofOption body.pythonVersion
  remoteDebuggingEnabled := .ofOption body.remoteDebuggingEnabled
  remoteDebuggingVersion := .ofOption body.remoteDebuggingVersion
  scmType := .given body.scmType.text
  use32BitWorkerProcess := .ofOption body.use32BitWorkerProcess
  websocketsEnabled := .ofOption body.webSocketsEnabled
  ftpsState := .given body.ftpsState.text
  linuxFxVersion := .ofOption body.linuxFxVersion
  minTlsVersion := .given body.minTlsVersion.text
  virtualNetworkName := .ofOption body.vnetName

theorem flatten_eq_ok_iff {body : Body} {block : Block} :
    body.flatten = .ok block ↔
      ∃ rules, Indexed.traverse flattenRule (body.ipSecurityRestrictions.getD []) = .ok rules ∧
        block = body.blockWith rules := by
  unfold flatten
  simp only [Steps.bind_eq_ok, Steps.pure_eq_ok]
  constructor
  · rintro ⟨rules, hrules, rfl⟩
    exact ⟨rules, hrules, rfl⟩
  · rintro ⟨rules, hrules, rfl⟩
    exact ⟨rules, hrules, rfl⟩

theorem flattenOption_eq_ok_iff {body : Body} {blocks : List Block} :
    flattenOption (some body) = .ok blocks ↔
      ∃ rules, Indexed.traverse flattenRule (body.ipSecurityRestrictions.getD []) = .ok rules ∧
        blocks = [body.blockWith rules] := by
  rw [flattenOption, Steps.map_eq_ok]
  constructor
  · rintro ⟨block, hblock, rfl⟩
    obtain ⟨rules, hrules, rfl⟩ := flatten_eq_ok_iff.mp hblock
    exact ⟨rules, hrules, rfl⟩
  · rintro ⟨rules, hrules, rfl⟩
    exact ⟨_, flatten_eq_ok_iff.mpr ⟨rules, hrules, rfl⟩, rfl⟩

theorem flattenOption_eq_ok {body : Body} {block : Block} (h : body.flatten = .ok block) :
    flattenOption (some body) = .ok [block] := by
  rw [flattenOption, h]
  rfl

/-! ## Malformed networks -/

/-- Every address of the body that has a slash reads as a network. -/
def ReadsNetworks (body : Body) : Prop :=
  ∀ rule ∈ body.ipSecurityRestrictions.getD [], ∀ ip, rule.ipAddress = some ip →
    '/' ∈ ip.toList → ∃ net, Network.parse? ip.toList = some net

/-- An access rule does not flatten exactly if its address has a slash and does not read as a
network; the address is reported as it is written. -/
theorem flattenRule_eq_error_iff {i : Nat} {rule : Rule} {fault : Fault} :
    flattenRule i rule = .error fault ↔
      ∃ ip, rule.ipAddress = some ip ∧ '/' ∈ ip.toList ∧ Network.parse? ip.toList = none ∧
        fault = .within (Block.rulePath i) (.network ip) := by
  unfold flattenRule
  cases rule.ipAddress with
  | none => simp
  | some ip =>
    simp only [Option.some.injEq, exists_eq_left']
    cases hdecode : Cidr.decode ip rule.subnetMask with
    | error inner =>
      obtain ⟨hslash, hnet, rfl⟩ := Cidr.decode_eq_error_iff.mp hdecode
      simp [hslash, hnet, eq_comm]
    | ok pair =>
      simp only [reduceCtorEq, false_iff]
      rintro ⟨hslash, hnet, -⟩
      rw [Cidr.decode_eq_error_iff.mpr ⟨hslash, hnet, rfl⟩] at hdecode
      cases hdecode

/-- An access rule flattens exactly if its address has no slash or reads as a network. -/
theorem exists_flattenRule_iff {i : Nat} {rule : Rule} :
    (∃ flat, flattenRule i rule = .ok flat) ↔
      ∀ ip, rule.ipAddress = some ip → '/' ∈ ip.toList →
        ∃ net, Network.parse? ip.toList = some net := by
  rw [← not_iff_not, ← Steps.exists_error_iff]
  simp only [flattenRule_eq_error_iff, not_forall, exists_prop, not_exists,
    Option.eq_none_iff_forall_ne_some, ne_eq]
  constructor
  · rintro ⟨_, ip, hip, hslash, hnet, -⟩
    exact ⟨ip, hip, hslash, hnet⟩
  · rintro ⟨ip, hip, hslash, hnet⟩
    exact ⟨_, ip, hip, hslash, hnet, rfl⟩

/-- **A body flattens exactly if its networks can be read.** -/
theorem exists_flattenOption_iff {body? : Option Body} :
    (∃ blocks, flattenOption body? = .ok blocks) ↔ ∀ body ∈ body?, body.ReadsNetworks := by
  cases body? with
  | none => simp [flattenOption]
  | some body =>
    have hrun : (∃ blocks, flattenOption (some body) = .ok blocks) ↔ ∃ flats,
        Indexed.traverse flattenRule (body.ipSecurityRestrictions.getD []) = .ok flats := by
      simp only [flattenOption_eq_ok_iff]
      constructor
      · rintro ⟨_, flats, hflats, rfl⟩
        exact ⟨flats, hflats⟩
      · rintro ⟨flats, hflats⟩
        exact ⟨_, flats, hflats, rfl⟩
    rw [hrun, Indexed.exists_traverse_iff_forall (f := flattenRule) fun _ _ =>
      exists_flattenRule_iff]
    simp only [Option.mem_def, Option.some.injEq, forall_eq']
    rfl

/-- Flattening a body fails as flattening its access rules does. -/
theorem flattenOption_some_eq_error_iff {body : Body} {fault : Fault} :
    flattenOption (some body) = .error fault ↔
      Indexed.traverse flattenRule (body.ipSecurityRestrictions.getD []) = .error fault := by
  rw [flattenOption, Steps.map_eq_error, flatten, Steps.bind_eq_error]
  simp only [Steps.pure_eq_error_iff, and_false, exists_false, or_false]

theorem flattenOption_eq_error {body? : Option Body} {fault : Fault}
    (h : flattenOption body? = .error fault) :
    ∃ path ip, fault = .within path (.network ip) := by
  cases body? with
  | none => cases h
  | some body =>
    obtain ⟨i, rule, -, hrule, -⟩ :=
      (Indexed.traverse_eq_error_iff _ _ _).mp (flattenOption_some_eq_error_iff.mp h)
    obtain ⟨ip, -, -, -, rfl⟩ := flattenRule_eq_error_iff.mp hrule
    exact ⟨_, ip, rfl⟩

end Body

end SiteConfig
