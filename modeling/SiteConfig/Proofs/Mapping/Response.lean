import SiteConfig.Proofs.Body.Reading
import SiteConfig.Proofs.Mapping.Flattening

/-!
# Sending a response back

A response can say more than can be sent: access rules without an address, addresses and masks that
nobody has looked at, texts that no vocabulary knows. Flattening takes all of these over, so that a
user can see them; expanding what was flattened is where they are refused.

- `Rule.Sendable`: an access rule of a response that can be sent again.
- `Rule.StandsFor rule net`: the network that such a rule stands for; one case for each way to come
  by its prefix length.
- `Body.expandFirst_of_flattenOption`: the main statement, for all bodies in normal form: when what
  was flattened can be sent, what is sent then, and that it stays the same from then on.
-/

namespace SiteConfig

/-! ## Access rules -/

namespace Rule

/-- The address part of a text: what stands before the slash, if there is one, without the white
space at the ends. -/
def addressPart (ip : String) : List Char :=
  (Text.trim ip.toList).takeWhile (· ≠ '/')

/-- The access rule can be sent again: it has an address, and its mask, if it has one, is ones
followed by zeros. -/
structure Sendable (rule : Rule) : Prop where
  address : ∃ ip a, rule.ipAddress = some ip ∧ Address.parse? (addressPart ip) = some a
  mask : ∀ mask, rule.mask? = some mask →
    ∃ m n, Address.parse? (Text.trim mask.toList) = some m ∧ Mask.HasLength m n

/-- The network that an access rule of a response stands for. -/
inductive StandsFor (rule : Rule) : Network → Prop
  /-- A mask decides the prefix length, whether there is a prefix or not. -/
  | masked {ip mask : String} {a m : Address} {n : Nat} (hip : rule.ipAddress = some ip)
      (hmask : rule.mask? = some mask) (ha : Address.parse? (addressPart ip) = some a)
      (hm : Address.parse? (Text.trim mask.toList) = some m) (hn : Mask.HasLength m n) :
      StandsFor rule ⟨a, n⟩
  /-- Without a mask, the prefix behind the address decides. -/
  | carried {ip : String} {net : Network} (hip : rule.ipAddress = some ip)
      (hmask : rule.mask? = none) (hnet : Network.parse? ip.toList = some net) :
      StandsFor rule net
  /-- Without either, the address stands for itself. -/
  | single {ip : String} {a : Address} (hip : rule.ipAddress = some ip)
      (hmask : rule.mask? = none) (hslash : '/' ∉ ip.toList)
      (ha : Address.parse? (Text.trim ip.toList) = some a) : StandsFor rule ⟨a, Mask.maxPrefix⟩

theorem addressPart_of_not_mem {ip : String} (h : '/' ∉ ip.toList) :
    addressPart ip = Text.trim ip.toList := by
  rw [addressPart, List.takeWhile_eq_self_iff]
  intro c hc
  rw [decide_eq_true_eq]
  rintro rfl
  exact h (Text.mem_of_mem_trim hc)

theorem StandsFor.length_le {rule : Rule} {net : Network} (h : rule.StandsFor net) :
    net.length ≤ Mask.maxPrefix := by
  cases h with
  | masked _ _ _ _ hn => exact hn.le
  | carried _ _ hnet => exact Network.length_le_of_parse? hnet
  | single => exact Nat.le_refl _

end Rule

/-- A setting that is given or unset counts as it is. -/
theorem Restriction.effectiveMask_ofOption (ip : String) (mask? : Option String) :
    effectiveMask ⟨ip, .ofOption mask?⟩ = mask?.getD "" := by
  cases mask? with
  | none => rfl
  | some mask => rfl

namespace Rule

namespace FlattensTo

variable {rule : Rule} {flat : Restriction}

/-- A rule that flattens can be sent again exactly if it stands for a network. -/
theorem exists_standsFor_iff (h : rule.FlattensTo flat) :
    (∃ net, rule.StandsFor net) ↔ rule.Sendable := by
  constructor
  · rintro ⟨net, hstands⟩
    cases hstands with
    | masked hip hmask ha hm hn =>
      refine ⟨⟨_, _, hip, ha⟩, fun mask hmask' => ?_⟩
      cases hmask.symm.trans hmask'
      exact ⟨_, _, hm, hn⟩
    | carried hip hmask hnet =>
      refine ⟨⟨_, _, hip, Network.parse?_takeWhile hnet⟩, fun mask hmask' => ?_⟩
      cases hmask.symm.trans hmask'
    | @single ip a hip hmask hslash ha =>
      have hpart : Address.parse? (addressPart ip) = some a := by
        rw [addressPart_of_not_mem hslash]
        exact ha
      refine ⟨⟨_, _, hip, hpart⟩, fun mask hmask' => ?_⟩
      cases hmask.symm.trans hmask'
  · rintro ⟨⟨ip, a, hip, ha⟩, hlength⟩
    cases hmask : rule.mask? with
    | some mask =>
      obtain ⟨m, n, hm, hn⟩ := hlength mask hmask
      exact ⟨_, .masked hip hmask ha hm hn⟩
    | none =>
      -- Without a mask it is the form of the address that decides.
      cases h with
      | absent hip' => cases hip.symm.trans hip'
      | bare hip' hslash =>
        cases hip.symm.trans hip'
        rw [addressPart_of_not_mem hslash] at ha
        exact ⟨_, .single hip hmask hslash ha⟩
      | network hip' hnet => exact ⟨_, .carried hip' hmask hnet⟩

end FlattensTo

section

variable {rule : Rule} {ip c : String} {net net' : Network}

/-- What is sent for a bare address is the text of the network that it stands for. -/
theorem encodes_bare_iff (hip : rule.ipAddress = some ip) (hslash : '/' ∉ ip.toList) :
    Cidr.Encodes ip (rule.mask?.getD "") c net ↔
      rule.StandsFor net ∧ c = String.ofList net.text := by
  cases hmask : rule.mask? with
  | none =>
    constructor
    · intro hencodes
      cases hencodes with
      | masked hne _ _ _ => exact absurd rfl hne
      | carried _ hslash' _ => exact absurd hslash' hslash
      | single _ _ ha => exact ⟨.single hip hmask hslash ha, rfl⟩
    · rintro ⟨hstands, rfl⟩
      cases hstands with
      | masked _ hmask' _ _ _ => cases hmask.symm.trans hmask'
      | carried hip' _ hnet =>
        cases hip.symm.trans hip'
        exact absurd (Network.slash_mem_of_parse? hnet) hslash
      | single hip' _ _ ha =>
        cases hip.symm.trans hip'
        exact .single rfl hslash ha
  | some mask =>
    have hne : mask ≠ "" := ne_of_mask? hmask
    constructor
    · intro hencodes
      cases hencodes with
      | masked _ ha hm hn =>
        rw [← addressPart_of_not_mem hslash] at ha
        exact ⟨.masked hip hmask ha hm hn, rfl⟩
      | carried hempty _ _ => exact absurd hempty hne
      | single hempty _ _ => exact absurd hempty hne
    · rintro ⟨hstands, rfl⟩
      cases hstands with
      | masked hip' hmask' ha hm hn =>
        cases hip.symm.trans hip'
        cases hmask.symm.trans hmask'
        rw [addressPart_of_not_mem hslash] at ha
        exact .masked hne ha hm hn
      | carried _ hmask' _ => cases hmask.symm.trans hmask'
      | single _ hmask' _ _ => cases hmask.symm.trans hmask'

/-- The same for the address of a network, next to its mask. -/
theorem encodes_network_iff (hip : rule.ipAddress = some ip)
    (hnet : Network.parse? ip.toList = some net) :
    Cidr.Encodes (String.ofList net.address.text)
        (rule.mask?.getD (String.ofList net.mask.text)) c net' ↔
      rule.StandsFor net' ∧ c = String.ofList net'.text := by
  have hlength := Network.hasLength_mask_of_parse? hnet
  have hne : rule.mask?.getD (String.ofList net.mask.text) ≠ "" := by
    cases hmask : rule.mask? with
    | none => exact net.mask.ofList_text_ne
    | some mask => exact ne_of_mask? hmask
  constructor
  · intro hencodes
    cases hencodes with
    | masked _ ha hm hn =>
      cases net.address.parse?_trim_text.symm.trans ha
      cases hmask : rule.mask? with
      | none =>
        rw [hmask] at hm
        cases net.mask.parse?_trim_text.symm.trans hm
        cases hlength.length_unique hn
        exact ⟨.carried hip hmask hnet, rfl⟩
      | some mask =>
        rw [hmask] at hm
        exact ⟨.masked hip hmask (Network.parse?_takeWhile hnet) hm hn, rfl⟩
    | carried hempty _ _ => exact absurd hempty hne
    | single hempty _ _ => exact absurd hempty hne
  · rintro ⟨hstands, rfl⟩
    cases hstands with
    | masked hip' hmask ha hm hn =>
      cases hip.symm.trans hip'
      cases (Network.parse?_takeWhile hnet).symm.trans ha
      rw [hmask] at hne ⊢
      exact .masked hne net.address.parse?_trim_text hm hn
    | carried hip' hmask hnet' =>
      cases hip.symm.trans hip'
      cases hnet.symm.trans hnet'
      rw [hmask] at hne ⊢
      exact .masked hne net.address.parse?_trim_text net.mask.parse?_trim_text hlength
    | single hip' _ hslash _ =>
      cases hip.symm.trans hip'
      exact absurd (Network.slash_mem_of_parse? hnet) hslash

end

/-- **What is sent for a flattened rule** is the text of the network that the rule stood for. -/
theorem FlattensTo.cidr_eq_ok_iff {rule : Rule} {flat : Restriction} (h : rule.FlattensTo flat)
    {c : String} :
    flat.cidr = .ok c ↔ ∃ net, rule.StandsFor net ∧ c = String.ofList net.text := by
  unfold Restriction.cidr
  rw [Cidr.encode_eq_ok_iff]
  refine exists_congr fun net => ?_
  cases h with
  | absent hip =>
    have hempty : Address.parse? (Text.trim "".toList) = none := rfl
    constructor
    · intro hencodes
      cases hencodes with
      | masked _ ha _ _ => cases hempty.symm.trans ha
      | carried _ hslash _ => exact absurd hslash List.not_mem_nil
      | single _ _ ha => cases hempty.symm.trans ha
    · rintro ⟨hstands, -⟩
      cases hstands with
      | masked hip' _ _ _ _ => cases hip.symm.trans hip'
      | carried hip' _ _ => cases hip.symm.trans hip'
      | single hip' _ _ _ => cases hip.symm.trans hip'
  | bare hip hslash =>
    rw [Restriction.effectiveMask_ofOption]
    exact encodes_bare_iff hip hslash
  | network hip hnet =>
    rw [Restriction.effectiveMask_ofOption]
    exact encodes_network_iff hip hnet

end Rule

section

variable {rules sent : List Rule} {flats : List Restriction} {nets : List Network}

/-- What is sent for a list of flattened rules are the networks that the rules stood for. -/
theorem Block.traverse_expandRule_of_flattensTo (h : List.Forall₂ Rule.FlattensTo rules flats) :
    Indexed.traverse expandRule flats = .ok sent ↔
      ∃ nets, List.Forall₂ Rule.StandsFor rules nets ∧ sent = nets.map Network.rule := by
  rw [Indexed.traverse_eq_ok_iff_forall₂ (f := expandRule) fun _ _ _ => expandRule_eq_ok_iff]
  induction h generalizing sent with
  | nil =>
    constructor
    · intro hsent
      cases hsent
      exact ⟨[], .nil, rfl⟩
    · rintro ⟨nets, hnets, rfl⟩
      cases hnets
      exact .nil
  | cons hflat _ ih =>
    constructor
    · intro hsent
      cases hsent with
      | cons hone hrest =>
        obtain ⟨c, hc, rfl⟩ := hone
        obtain ⟨net, hnet, rfl⟩ := hflat.cidr_eq_ok_iff.mp hc
        obtain ⟨nets, hnets, rfl⟩ := ih.mp hrest
        exact ⟨net :: nets, .cons hnet hnets, rfl⟩
    · rintro ⟨nets, hnets, rfl⟩
      cases hnets with
      | cons hnet hrest =>
        exact .cons ⟨_, hflat.cidr_eq_ok_iff.mpr ⟨_, hnet, rfl⟩, rfl⟩ (ih.mpr ⟨_, hrest, rfl⟩)

theorem Rule.exists_forall₂_standsFor_iff (h : List.Forall₂ FlattensTo rules flats) :
    (∃ nets, List.Forall₂ StandsFor rules nets) ↔ ∀ rule ∈ rules, rule.Sendable := by
  induction h with
  | nil =>
    constructor
    · intro _ rule hrule
      cases hrule
    · intro _
      exact ⟨[], .nil⟩
  | cons hflat _ ih =>
    rw [List.forall_mem_cons, ← hflat.exists_standsFor_iff, ← ih]
    constructor
    · rintro ⟨nets, hnets⟩
      cases hnets with
      | cons hnet hrest => exact ⟨⟨_, hnet⟩, _, hrest⟩
    · rintro ⟨⟨net, hnet⟩, nets, hrest⟩
      exact ⟨net :: nets, .cons hnet hrest⟩

/-- What a user would write for networks expands to the rules of these. -/
theorem Block.traverse_expandRule_restriction (h : ∀ net ∈ nets, net.length ≤ Mask.maxPrefix) :
    Indexed.traverse expandRule (nets.map Network.restriction) = .ok (nets.map Network.rule) := by
  rw [Indexed.traverse_map]
  refine Indexed.traverse_eq_map fun i net hnet => expandRule_eq_ok_iff.mpr ⟨_, ?_, rfl⟩
  exact net.cidr_restriction (h net (List.mem_of_getElem? hnet))

end

/-! ## Bodies -/

/-- The text of an enumeration in normal form expands exactly if its value is known. -/
theorem Block.expandEnum_text_eq_ok_iff {E : Type} [Vocabulary E] [Vocabulary.Lawful E]
    {spec : FieldSpec} {x y : Reported E} (h : x.IsNormal) :
    expandEnum spec (.given x.text) = .ok y ↔ (∃ e, x = .known e) ∧ y = x := by
  cases x with
  | known e => simp [expandEnum, Reported.text, Vocabulary.Lawful.parse?_spelling, eq_comm]
  | other s =>
    have hnone : (Vocabulary.parse? s : Option E) = none := h
    simp [expandEnum, Reported.text, hnone]

namespace Body

/-- The body as it is sent: with a list of documents, and with a list of access rules. -/
def sentWith (body : Body) (rules : List Rule) : Body :=
  { body with
    defaultDocuments := some (body.defaultDocuments.getD [])
    ipSecurityRestrictions := some rules }

variable {body again : Body}

/-- The values of a body, with given access rules, expand exactly if its enumerations are known and
the access rules can be sent; then everything that the body has is sent as it is. -/
theorem expand_blockWith_eq_ok_iff (hnormal : body.IsNormal) {flats : List Restriction} :
    (body.blockWith flats).expand = .ok again ↔
      body.AllKnown ∧
        ∃ sent, Indexed.traverse Block.expandRule flats = .ok sent ∧
          again = body.sentWith sent := by
  have hbody : ∀ sent, (body.blockWith flats).bodyWith sent body.managedPipelineMode body.scmType
      body.ftpsState body.minTlsVersion = body.sentWith sent := by
    intro sent
    simp only [Block.bodyWith, blockWith, sentWith, Setting.value?_ofOption]
  rw [Block.expand_eq_ok_iff]
  constructor
  · rintro ⟨sent, mode, scm, ftps, tls, hsent, hmode, hscm, hftps, htls, rfl⟩
    obtain ⟨hmode', rfl⟩ := (Block.expandEnum_text_eq_ok_iff hnormal.managedPipelineMode).mp hmode
    obtain ⟨hscm', rfl⟩ := (Block.expandEnum_text_eq_ok_iff hnormal.scmType).mp hscm
    obtain ⟨hftps', rfl⟩ := (Block.expandEnum_text_eq_ok_iff hnormal.ftpsState).mp hftps
    obtain ⟨htls', rfl⟩ := (Block.expandEnum_text_eq_ok_iff hnormal.minTlsVersion).mp htls
    exact ⟨⟨hmode', hscm', hftps', htls'⟩, sent, hsent, hbody sent⟩
  · rintro ⟨hknown, sent, hsent, rfl⟩
    exact ⟨sent, _, _, _, _, hsent,
      (Block.expandEnum_text_eq_ok_iff hnormal.managedPipelineMode).mpr
        ⟨hknown.managedPipelineMode, rfl⟩,
      (Block.expandEnum_text_eq_ok_iff hnormal.scmType).mpr ⟨hknown.scmType, rfl⟩,
      (Block.expandEnum_text_eq_ok_iff hnormal.ftpsState).mpr ⟨hknown.ftpsState, rfl⟩,
      (Block.expandEnum_text_eq_ok_iff hnormal.minTlsVersion).mpr ⟨hknown.minTlsVersion, rfl⟩,
      (hbody sent).symm⟩

/-- A body whose access rules send networks, and whose enumerations are known, flattens to a block
that expands again; what is sent then has the canonical texts of the networks, and flattens to the
same block. -/
theorem expandFirst_blockWith (hknown : body.AllKnown) {nets : List Network}
    (hsends : List.Forall₂ Rule.Sends (body.ipSecurityRestrictions.getD []) nets) :
    flattenOption (some body) = .ok [body.blockWith (nets.map Network.restriction)] ∧
      Block.expandFirst [body.blockWith (nets.map Network.restriction)]
        = .ok (body.sentWith (nets.map Network.rule)) ∧
      flattenOption (some (body.sentWith (nets.map Network.rule)))
        = .ok [body.blockWith (nets.map Network.restriction)] := by
  have hlength : ∀ net ∈ nets, net.length ≤ Mask.maxPrefix :=
    Indexed.forall_of_forall₂ (fun _ _ h => Rule.Sends.length_le h) hsends
  refine ⟨flattenOption_eq_ok_iff.mpr ⟨_, traverse_flattenRule_of_sends hsends, rfl⟩, ?_, ?_⟩
  · exact (expand_blockWith_eq_ok_iff hknown.isNormal).mpr
      ⟨hknown, _, Block.traverse_expandRule_restriction hlength, rfl⟩
  · exact flattenOption_eq_ok_iff.mpr
      ⟨_, traverse_flattenRule_of_sends (Rule.forall₂_sends_rule hlength), rfl⟩

/-- **When a response can be sent back, and what is sent then.** What a body flattens to can be
expanded exactly if all its enumerations are known and all its access rules can be sent. Then
everything comes back as it was, but that the lists are always there and that each access rule is
the canonical text of the network that it stands for; and from then on nothing changes. -/
theorem expandFirst_of_flattenOption {blocks : List Block} (hnormal : body.IsNormal)
    (hflat : flattenOption (some body) = .ok blocks) :
    ((∃ again, Block.expandFirst blocks = .ok again) ↔
        body.AllKnown ∧ ∀ rule ∈ body.ipSecurityRestrictions.getD [], rule.Sendable) ∧
      ∀ again, Block.expandFirst blocks = .ok again →
        (∃ nets, List.Forall₂ Rule.StandsFor (body.ipSecurityRestrictions.getD []) nets ∧
          again = { body with
            defaultDocuments := some (body.defaultDocuments.getD [])
            ipSecurityRestrictions := some (nets.map Network.rule) }) ∧
        ∃ blocks', flattenOption (some again) = .ok blocks' ∧
          Block.expandFirst blocks' = .ok again := by
  obtain ⟨flats, hflats, rfl⟩ := flattenOption_eq_ok_iff.mp hflat
  have hrules := traverse_flattenRule_eq_ok_iff.mp hflats
  have hexpand : ∀ again, Block.expandFirst [body.blockWith flats] = .ok again ↔
      body.AllKnown ∧
        ∃ nets, List.Forall₂ Rule.StandsFor (body.ipSecurityRestrictions.getD []) nets ∧
          again = body.sentWith (nets.map Network.rule) := by
    intro again
    refine (expand_blockWith_eq_ok_iff hnormal).trans (and_congr_right fun _ => ?_)
    simp only [Block.traverse_expandRule_of_flattensTo hrules]
    constructor
    · rintro ⟨sent, ⟨nets, hnets, rfl⟩, hagain⟩
      exact ⟨nets, hnets, hagain⟩
    · rintro ⟨nets, hnets, hagain⟩
      exact ⟨_, ⟨nets, hnets, rfl⟩, hagain⟩
  constructor
  · rw [← Rule.exists_forall₂_standsFor_iff hrules]
    constructor
    · rintro ⟨again, hagain⟩
      obtain ⟨hknown, nets, hnets, -⟩ := (hexpand again).mp hagain
      exact ⟨hknown, nets, hnets⟩
    · rintro ⟨hknown, nets, hnets⟩
      exact ⟨_, (hexpand _).mpr ⟨hknown, nets, hnets, rfl⟩⟩
  · intro again hagain
    obtain ⟨hknown, nets, hnets, rfl⟩ := (hexpand again).mp hagain
    have hlength := Indexed.forall_of_forall₂ (fun _ _ h => Rule.StandsFor.length_le h) hnets
    have hknown' : (body.sentWith (nets.map Network.rule)).AllKnown :=
      ⟨hknown.managedPipelineMode, hknown.scmType, hknown.ftpsState, hknown.minTlsVersion⟩
    obtain ⟨hflat', hagain', -⟩ := expandFirst_blockWith hknown' (Rule.forall₂_sends_rule hlength)
    exact ⟨⟨nets, hnets, rfl⟩, _, hflat', hagain'⟩

/-- A response with a prefix, with a bare address in white space and with a mask kept apart. -/
def sampleResponse : Body where
  alwaysOn := some false
  javaVersion := some ""
  ipSecurityRestrictions :=
    some [⟨some "10.0.0.0/+24", none⟩, ⟨some " 10.1.0.1 ", some ""⟩,
      ⟨some "192.168.7.0", some "255.255.0.0"⟩]
  scmType := .known .gitHub

/-- It can be sent back: each rule as the network that it stands for, and everything else as it
is. -/
theorem expandFirst_sampleResponse :
    ∃ blocks again, flattenOption (some sampleResponse) = .ok blocks ∧
      Block.expandFirst blocks = .ok again ∧ again.alwaysOn = some false ∧
      again.javaVersion = some "" ∧ again.defaultDocuments = some [] ∧
      again.ipSecurityRestrictions
        = some [⟨some "10.0.0.0/24", some ""⟩, ⟨some "10.1.0.1/32", some ""⟩,
          ⟨some "192.168.7.0/16", some ""⟩] ∧
      ∃ blocks', flattenOption (some again) = .ok blocks' ∧
        Block.expandFirst blocks' = .ok again := by
  have hnormal : sampleResponse.IsNormal := ⟨trivial, trivial, trivial, trivial⟩
  obtain ⟨blocks, again, hblocks, hagain, hshape⟩ : ∃ blocks again,
      flattenOption (some sampleResponse) = .ok blocks ∧ Block.expandFirst blocks = .ok again ∧
        again.alwaysOn = some false ∧ again.javaVersion = some "" ∧
        again.defaultDocuments = some [] ∧
        again.ipSecurityRestrictions
          = some [⟨some "10.0.0.0/24", some ""⟩, ⟨some "10.1.0.1/32", some ""⟩,
            ⟨some "192.168.7.0/16", some ""⟩] := ⟨_, _, rfl, rfl, rfl, rfl, rfl, rfl⟩
  obtain ⟨-, hsent⟩ := expandFirst_of_flattenOption hnormal hblocks
  obtain ⟨-, hstable⟩ := hsent again hagain
  exact ⟨blocks, again, hblocks, hagain, hshape.1, hshape.2.1, hshape.2.2.1, hshape.2.2.2, hstable⟩

end Body

end SiteConfig
