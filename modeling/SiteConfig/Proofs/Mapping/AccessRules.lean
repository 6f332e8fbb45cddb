import SiteConfig.Proofs.Mapping.Flattening

/-!
# Access rules keep their meaning

An access rule admits a set of addresses. The rule of a user, the rule that is sent for it and the
rule that a user would read back all admit the same addresses, whichever way the range was written:
with a mask, with a prefix behind the address, or as a single address.

- `Restriction.Admits rule x`: the rule admits `x`, compared with its address under its mask.
- `Network.Contains net x`: the first bits of `x` are those of the network.
- `Block.admits_of_expandFirst`: the main statement, for all blocks, rules and addresses.
-/

namespace SiteConfig

/-! ## The addresses of a rule -/

namespace Restriction

/-- The mask that a rule has of its own, if any. A mask that only the schema filled in does not
count next to a prefix behind the address. -/
def ownMask? (rule : Restriction) : Option String :=
  match rule.subnetMask with
  | .unset => none
  | .filled m => if m = "" ∨ '/' ∈ rule.ipAddress.toList then none else some m
  | .given m => if m = "" then none else some m

/-- The address and the mask that a rule stands for: its own mask, or else that of the prefix
behind the address, or else that of a single address. -/
def range? (rule : Restriction) : Option (Address × Address) :=
  match rule.ownMask? with
  | some mask =>
    match Address.parse? (Text.trim rule.ipAddress.toList),
        Address.parse? (Text.trim mask.toList) with
    | some a, some m => some (a, m)
    | _, _ => none
  | none =>
    if '/' ∈ rule.ipAddress.toList then
      (Network.parse? rule.ipAddress.toList).map fun net => (net.address, net.mask)
    else
      (Address.parse? (Text.trim rule.ipAddress.toList)).map fun a => (a, BitVec.allOnes 32)

/-- The rule admits an address: it agrees with the rule's own under the rule's mask. -/
def Admits (rule : Restriction) (x : Address) : Prop :=
  ∃ a m, rule.range? = some (a, m) ∧ x &&& m = a &&& m

theorem admits_iff {rule : Restriction} {a m : Address} (h : rule.range? = some (a, m))
    (x : Address) : rule.Admits x ↔ x &&& m = a &&& m := by
  constructor
  · rintro ⟨a', m', h', hx⟩
    cases h.symm.trans h'
    exact hx
  · intro hx
    exact ⟨a, m, h, hx⟩

/-- A rule's own mask is what counts in encoding it. -/
theorem ownMask?_eq (rule : Restriction) :
    rule.ownMask? = if rule.effectiveMask = "" then none else some rule.effectiveMask := by
  unfold ownMask? effectiveMask maskText
  cases rule.subnetMask with
  | unset => rfl
  | filled m =>
    by_cases hslash : '/' ∈ rule.ipAddress.toList
    · simp [hslash]
    · simp [hslash]
  | given m => rfl

end Restriction

/-- The first bits of the address are those of the network. -/
def Network.Contains (net : Network) (x : Address) : Prop :=
  ∀ i < net.length, x.getMsbD i = net.address.getMsbD i

/-! ## What is sent and what is read back -/

/-- What is sent for a rule has the rule's range. -/
theorem Cidr.Encodes.range?_eq {rule : Restriction} {c : String} {net : Network}
    (h : Encodes rule.ipAddress rule.effectiveMask c net) :
    ∃ m, rule.range? = some (net.address, m) ∧ Mask.HasLength m net.length := by
  unfold Restriction.range?
  rw [rule.ownMask?_eq]
  cases h with
  | masked hmask ha hm hn =>
    rw [if_neg hmask]
    simp only [ha, hm]
    exact ⟨_, rfl, hn⟩
  | carried hmask hslash hnet =>
    rw [if_pos hmask]
    simp only [if_pos hslash, hnet]
    exact ⟨_, rfl, Network.hasLength_mask_of_parse? hnet⟩
  | single hmask hslash ha =>
    rw [if_pos hmask]
    simp only [if_neg hslash, ha]
    exact ⟨_, rfl, Mask.hasLength_allOnes⟩

/-- A rule admits the addresses of the network that is sent for it. -/
theorem Restriction.admits_iff_contains {rule : Restriction} {c : String} {net : Network}
    (h : Cidr.Encodes rule.ipAddress rule.effectiveMask c net) (x : Address) :
    rule.Admits x ↔ net.Contains x := by
  obtain ⟨m, hrange, hm⟩ := h.range?_eq
  rw [admits_iff hrange, Mask.and_eq_and_iff hm]
  rfl

/-- The rule that a user would write for a network admits the addresses of the network. -/
theorem Network.admits_restriction_iff {net : Network} (h : net.length ≤ Mask.maxPrefix)
    (x : Address) : net.restriction.Admits x ↔ net.Contains x := by
  obtain ⟨net', hencodes⟩ := Cidr.encode_eq_ok_iff.mp (net.cidr_restriction h)
  have hsame := hencodes.parse?
  rw [String.toList_ofList, parse?_text h] at hsame
  cases hsame
  exact Restriction.admits_iff_contains hencodes x

namespace Block

/-- **Access rules keep their meaning.** For every rule of a block that expands, the rule, the
network that is sent for it and the rule that is read back admit the same addresses. -/
theorem admits_of_expandFirst {block : Block} {rest : List Block} {body : Body}
    (h : expandFirst (block :: rest) = .ok body) :
    ∃ rules flat, body.ipSecurityRestrictions = some rules ∧
      Body.flattenOption (some body) = .ok [flat] ∧
      rules.length = block.ipRestriction.length ∧
      flat.ipRestriction.length = block.ipRestriction.length ∧
      ∀ (i : Nat) (rule : Restriction), block.ipRestriction[i]? = some rule →
        ∃ sent net again, rules[i]? = some sent ∧ sent.Sends net ∧
          flat.ipRestriction[i]? = some again ∧
          ∀ x, (rule.Admits x ↔ net.Contains x) ∧ (net.Contains x ↔ again.Admits x) := by
  obtain ⟨rules, mode, scm, ftps, tls, hrules, -, -, -, -, rfl⟩ := expand_eq_ok_iff.mp h
  obtain ⟨hlength, hsent⟩ := (Indexed.traverse_eq_ok_iff _ _ _).mp hrules
  obtain ⟨restrictions, hflatten, hlength', hflat⟩ :=
    Body.exists_traverse_flattenRule (sends_of_traverse hrules)
  refine ⟨rules, _, rfl,
    Body.flattenOption_eq_ok (Body.flatten_eq_ok_iff.mpr ⟨restrictions, hflatten, rfl⟩), hlength,
    hlength'.trans hlength, fun i rule hrule => ?_⟩
  obtain ⟨sent, hi, hexpand⟩ := hsent i rule hrule
  obtain ⟨c, net, hencodes, rfl⟩ := expandRule_eq_ok_iff_encodes.mp hexpand
  obtain ⟨net', hsends, hagain⟩ := hflat i _ hi
  -- The text that is sent reads as one network only.
  have hnet : Rule.Sends ⟨some c, some ""⟩ net := ⟨c, rfl, hencodes.parse?⟩
  cases hsends.unique hnet
  refine ⟨_, net, _, hi, hnet, hagain, fun x => ⟨Restriction.admits_iff_contains hencodes x, ?_⟩⟩
  exact (Network.admits_restriction_iff hnet.length_le x).symm

/-- The second entry of the sample document admits the addresses that start with 192.168, and so
does what is read back for it. -/
theorem admits_sampleBlock :
    ∃ body flat again, expandFirst [sampleBlock] = .ok body ∧
      Body.flattenOption (some body) = .ok [flat] ∧ flat.ipRestriction[1]? = some again ∧
      ∀ x, Restriction.Admits ⟨"192.168.0.0/+16", .filled Schema.hostMask⟩ x ↔ again.Admits x := by
  obtain ⟨body, hbody⟩ : ∃ body, expandFirst [sampleBlock] = .ok body := ⟨_, rfl⟩
  obtain ⟨rules, flat, -, hflat, -, -, hsame⟩ := admits_of_expandFirst hbody
  obtain ⟨sent, net, again, -, -, hagain, hadmits⟩ := hsame 1 _ rfl
  exact ⟨body, flat, again, hbody, hflat, hagain, fun x => (hadmits x).1.trans (hadmits x).2⟩

end Block

end SiteConfig
