import SiteConfig.Proofs.Mapping.Flattening
import SiteConfig.Proofs.Network.Grammar

/-!
# What keeps a body from being flattened

A response is taken over as it is, except that a network behind a slash is taken apart. Only this
can fail, and what can be relied on afterwards is that it has been done everywhere.

- `Rule.Malformed rule ip`: the address of the rule has a slash and is no network.
- `Body.FlatteningFault body fault`: the first malformed rule, with its address as it is written.
- `Rule.TakenOver rule flat`: the address and the mask that a user sees for an access rule.
- `Restriction.Apart`: no prefix is left behind the address, and no mask is blank or made up.
- `Body.flattenOption_faults`: the main statement, for all bodies: when flattening fails and how, and
  the access rules that it makes otherwise.
-/

namespace SiteConfig

/-! ## The statement -/

/-- The address of the rule has a slash, but is not a quad, a slash and a prefix length. -/
structure Rule.Malformed (rule : Rule) (ip : String) : Prop where
  address : rule.ipAddress = some ip
  slash : '/' ∈ ip.toList
  network : ∀ net, ¬ Cidr.IsNetwork ip net

/-- The fault that is reported of a body that cannot be flattened: the first malformed address,
whatever the masks and the other fields are. -/
inductive Body.FlatteningFault (body : Body) : Fault → Prop
  | rule {i : Nat} {rule : Rule} {ip : String}
      (hi : (body.ipSecurityRestrictions.getD [])[i]? = some rule) (hip : rule.Malformed ip)
      (hbefore : ∀ (j : Nat) (earlier : Rule), j < i →
        (body.ipSecurityRestrictions.getD [])[j]? = some earlier → ∀ s, ¬ earlier.Malformed s) :
      FlatteningFault body
        (.within ("ip_restriction." ++ String.ofList (Text.decimal i)) (.network ip))

/-- What a user sees for an access rule of a response. A mask of its own counts, as it is written,
before the one that the prefix stands for. -/
structure Rule.TakenOver (rule : Rule) (flat : Restriction) : Prop where
  absent : rule.ipAddress = none → flat.ipAddress = ""
  bare : ∀ ip, rule.ipAddress = some ip → '/' ∉ ip.toList → flat.ipAddress = ip
  network : ∀ ip, rule.ipAddress = some ip → '/' ∈ ip.toList →
    ∃ net m, Cidr.IsNetwork ip net ∧ Mask.HasLength m net.length ∧
      flat.ipAddress = String.ofList net.address.text ∧
      (rule.mask? = none → flat.subnetMask = .given (String.ofList m.text))
  mask : ∀ m, rule.mask? = some m → flat.subnetMask = .given m
  unset : rule.mask? = none → (∀ ip, rule.ipAddress = some ip → '/' ∉ ip.toList) →
    flat.subnetMask = .unset

/-- The address and the mask are apart: no slash is left in the address, and the mask, unless it is
unset, is a text that was given and is not empty. -/
structure Restriction.Apart (flat : Restriction) : Prop where
  slash : '/' ∉ flat.ipAddress.toList
  notFilled : ∀ m, flat.subnetMask ≠ .filled m
  notBlank : flat.subnetMask ≠ .given ""

/-! ## One access rule -/

namespace Rule

variable {rule : Rule} {flat : Restriction}

/-- A malformed address has a slash and does not read as a network. -/
theorem malformed_iff {ip : String} :
    rule.Malformed ip ↔
      rule.ipAddress = some ip ∧ '/' ∈ ip.toList ∧ Network.parse? ip.toList = none := by
  have hread : (∀ net, ¬ Cidr.IsNetwork ip net) ↔ Network.parse? ip.toList = none := by
    simp only [Cidr.isNetwork_iff, Cidr.network_eq_ok_iff, Option.eq_none_iff_forall_ne_some, ne_eq]
  rw [← hread]
  constructor
  · rintro ⟨hip, hslash, hnet⟩
    exact ⟨hip, hslash, hnet⟩
  · rintro ⟨hip, hslash, hnet⟩
    exact ⟨hip, hslash, hnet⟩

theorem FlattensTo.takenOver (h : rule.FlattensTo flat) : rule.TakenOver flat where
  absent hip := by
    cases h with
    | absent => rfl
    | bare hip' => cases hip.symm.trans hip'
    | network hip' => cases hip.symm.trans hip'
  bare ip hip hslash := by
    cases h with
    | absent hip' => cases hip.symm.trans hip'
    | bare hip' => exact Option.some.inj (hip'.symm.trans hip)
    | network hip' hnet =>
      cases hip.symm.trans hip'
      exact absurd (Network.slash_mem_of_parse? hnet) hslash
  network ip hip hslash := by
    cases h with
    | absent hip' => cases hip.symm.trans hip'
    | bare hip' hbare =>
      cases hip.symm.trans hip'
      exact absurd hslash hbare
    | @network _ net hip' hnet =>
      cases hip.symm.trans hip'
      have hread : Cidr.IsNetwork ip net := Cidr.isNetwork_iff.mpr (Cidr.network_eq_ok_iff.mpr hnet)
      have hmask : Mask.HasLength net.mask net.length :=
        Network.hasLength_mask_of_parse? hnet
      refine ⟨net, net.mask, hread, hmask, rfl, fun hnone => ?_⟩
      rw [hnone]
      rfl
  mask m hm := by
    cases h with
    | absent | bare | network =>
      rw [hm]
      rfl
  unset hnone hbare := by
    cases h with
    | absent | bare =>
      rw [hnone]
      rfl
    | network hip hnet => exact absurd (Network.slash_mem_of_parse? hnet) (hbare _ hip)

/-- The mask of an access rule that was flattened is given or unset, and not blank. -/
theorem FlattensTo.exists_mask (h : rule.FlattensTo flat) :
    ∃ mask?, flat.subnetMask = .ofOption mask? ∧ mask? ≠ some "" := by
  have hown : rule.mask? ≠ some "" := fun hm => ne_of_mask? hm rfl
  cases h with
  | absent | bare => exact ⟨_, rfl, hown⟩
  | @network ip net =>
    refine ⟨some (rule.mask?.getD (String.ofList net.mask.text)), rfl, ?_⟩
    cases hm : rule.mask? with
    | none => simpa using Address.ofList_text_ne net.mask
    | some m => simpa using ne_of_mask? hm

theorem FlattensTo.apart (h : rule.FlattensTo flat) : flat.Apart := by
  obtain ⟨mask?, hmask, hne⟩ := h.exists_mask
  refine ⟨h.slash_not_mem, fun m hfilled => ?_, fun hblank => ?_⟩
  · rw [hmask] at hfilled
    cases mask? with
    | none | some => cases hfilled
  · rw [hmask] at hblank
    cases mask? with
    | none => cases hblank
    | some m =>
      cases hblank
      exact hne rfl

end Rule

namespace Body

/-- An access rule does not flatten exactly if it is malformed. -/
theorem flattenRule_eq_error_iff_malformed {i : Nat} {rule : Rule} {fault : Fault} :
    flattenRule i rule = .error fault ↔ ∃ ip, rule.Malformed ip ∧
      fault = .within ("ip_restriction." ++ String.ofList (Text.decimal i)) (.network ip) := by
  simp only [flattenRule_eq_error_iff, Rule.malformed_iff, and_assoc]
  rfl

theorem exists_flattenRule_iff_not_malformed {i : Nat} {rule : Rule} :
    (∃ flat, flattenRule i rule = .ok flat) ↔ ∀ ip, ¬ rule.Malformed ip := by
  simp only [exists_flattenRule_iff, Rule.malformed_iff, not_and, ← ne_eq,
    Option.ne_none_iff_exists']

/-- Access rules flatten if none of them is malformed. -/
theorem exists_traverse_flattenRule_iff {rules : List Rule} :
    (∃ flats, Indexed.traverse flattenRule rules = .ok flats) ↔
      ∀ rule ∈ rules, ∀ ip, ¬ rule.Malformed ip :=
  Indexed.exists_traverse_iff_forall (f := flattenRule) fun _ _ =>
    exists_flattenRule_iff_not_malformed

theorem flattenOption_eq_error_iff {body : Body} {fault : Fault} :
    flattenOption (some body) = .error fault ↔ body.FlatteningFault fault := by
  rw [flattenOption_some_eq_error_iff, Indexed.traverse_eq_error_iff]
  simp only [flattenRule_eq_error_iff_malformed, exists_flattenRule_iff_not_malformed]
  constructor
  · rintro ⟨i, rule, hi, ⟨ip, hip, rfl⟩, hbefore⟩
    exact .rule hi hip hbefore
  · rintro ⟨hi, hip, hbefore⟩
    exact ⟨_, _, hi, ⟨_, hip, rfl⟩, hbefore⟩

/-- **A body flattens unless a network is malformed, and the first one is reported.** For every
body: the masks of the access rules and the other fields do not count. If no network is malformed,
there is one block, with an access rule for each of the body's: a network is taken apart, and
everything else is taken over as it is. -/
theorem flattenOption_faults (body : Body) :
    ((∃ fault, flattenOption (some body) = .error fault) ↔
      ∃ rule ∈ body.ipSecurityRestrictions.getD [], ∃ ip, rule.Malformed ip) ∧
    (∀ fault, flattenOption (some body) = .error fault ↔ body.FlatteningFault fault) ∧
    ((∀ rule ∈ body.ipSecurityRestrictions.getD [], ∀ ip, ¬ rule.Malformed ip) →
      ∃ block, flattenOption (some body) = .ok [block] ∧
        List.Forall₂ Rule.TakenOver (body.ipSecurityRestrictions.getD []) block.ipRestriction ∧
        ∀ flat ∈ block.ipRestriction, flat.Apart) := by
  refine ⟨?_, fun fault => flattenOption_eq_error_iff, fun hwell => ?_⟩
  · simp only [flattenOption_some_eq_error_iff, Steps.exists_error_iff,
      exists_traverse_flattenRule_iff, not_forall, not_not, exists_prop]
  · obtain ⟨flats, hflats⟩ := exists_traverse_flattenRule_iff.mpr hwell
    have hall := traverse_flattenRule_eq_ok_iff.mp hflats
    exact ⟨body.blockWith flats, flattenOption_eq_ok_iff.mpr ⟨flats, hflats, rfl⟩,
      hall.imp fun _ _ hflat => hflat.takenOver,
      Indexed.forall_of_forall₂ (fun _ _ hflat => hflat.apart) hall⟩

/-- A response with masks that nobody has looked at, behind a prefix, a bare text and no address. -/
def sampleRecords : Body where
  ipSecurityRestrictions :=
    some [⟨some " 10.0.0.0/24 ", some "wide"⟩, ⟨some "10.0.0.0/9", some ""⟩,
      ⟨some " anywhere ", none⟩, ⟨none, some " "⟩]

theorem flattenOption_sampleRecords :
    ∃ block, flattenOption (some sampleRecords) = .ok [block] ∧
      block.ipRestriction = [⟨"10.0.0.0", .given "wide"⟩, ⟨"10.0.0.0", .given "255.128.0.0"⟩,
        ⟨" anywhere ", .unset⟩, ⟨"", .given " "⟩] ∧
      ∀ flat ∈ block.ipRestriction, flat.Apart := by
  have hwell : ∀ rule ∈ sampleRecords.ipSecurityRestrictions.getD [], ∀ ip, ¬ rule.Malformed ip :=
    exists_traverse_flattenRule_iff.mp ⟨_, rfl⟩
  obtain ⟨-, -, hok⟩ := flattenOption_faults sampleRecords
  obtain ⟨block, hblock, -, hapart⟩ := hok hwell
  have hrules : block.ipRestriction = [⟨"10.0.0.0", .given "wide"⟩,
      ⟨"10.0.0.0", .given "255.128.0.0"⟩, ⟨" anywhere ", .unset⟩, ⟨"", .given " "⟩] := by
    cases hblock
    rfl
  exact ⟨block, hblock, hrules, hapart⟩

/-- The first of two malformed networks is reported, whatever the masks are. -/
example :
    FlatteningFault
      { ipSecurityRestrictions :=
          some [⟨some "10.0.0.0/8", some "wide"⟩, ⟨some " 10.0.0.0/33", some "255.0.0.0"⟩,
            ⟨some "/", none⟩] }
      (.within "ip_restriction.1" (.network " 10.0.0.0/33")) := by
  rw [← flattenOption_eq_error_iff]
  rfl

end Body

end SiteConfig
