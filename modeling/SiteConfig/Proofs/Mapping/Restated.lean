import SiteConfig.Proofs.Block.Written
import SiteConfig.Proofs.Mapping.AccessRules
import SiteConfig.Proofs.Mapping.Response

/-!
# What a block comes back as

A block is expanded, and what was sent is flattened. This holds for every block that expands, also
for one that no document was read for, with texts that no field would accept. The block comes back
with the same values, now given; the texts of the enumerations in the spelling of the service, and
the access rules as an address and a mask. Once more around, nothing changes.

- `Setting.Respelled E`: how the setting of an enumeration comes back.
- `Restriction.Restates`: how an access rule comes back.
- `Block.restates_of_expandFirst`: the main statement, for all lists of blocks.
-/

namespace SiteConfig

/-! ## One field -/

/-- The setting of an enumeration comes back as the spelling of the value that its text stands for,
which is its text up to case. An unset one comes back as the empty text. -/
def Setting.Respelled (E : Type) [Vocabulary E] (before after : Setting String) : Prop :=
  match before.value? with
  | none => after = .given ""
  | some t => ∃ e : E, Vocabulary.parse? t = some e ∧
      Text.sameUpToCase (Vocabulary.spelling e) t = true ∧ after = .given (Vocabulary.spelling e)

theorem Block.respelled_of_expandEnum {E : Type} [Vocabulary E] {spec : FieldSpec}
    {setting : Setting String} {x : Reported E}
    (hzero : Vocabulary.spelling (Vocabulary.zero : E) = "")
    (h : expandEnum spec setting = .ok x) : setting.Respelled E (.given x.text) := by
  unfold Setting.Respelled
  rcases expandEnum_eq_ok_iff.mp h with ⟨hunset, rfl⟩ | ⟨t, e, ht, he, rfl⟩
  · rw [hunset]
    exact congrArg Setting.given hzero
  · rw [ht]
    exact ⟨e, he, Vocabulary.sameUpToCase_of_parse? he, rfl⟩

/-! ## Access rules -/

/-- An access rule comes back as the address and the mask that it stands for, in their canonical
texts. -/
def Restriction.Restates (again rule : Restriction) : Prop :=
  ∃ a m, rule.range? = some (a, m) ∧
    again = ⟨String.ofList a.text, .given (String.ofList m.text)⟩

theorem Network.restates {net : Network} {rule : Restriction}
    (h : rule.range? = some (net.address, net.mask)) : net.restriction.Restates rule :=
  ⟨_, _, h, rfl⟩

/-- Between a list of access rules and what is sent for them stand the networks of the rules. -/
theorem Block.exists_networks {restrictions : List Restriction} {rules : List Rule}
    (h : Indexed.traverse expandRule restrictions = .ok rules) :
    ∃ nets, List.Forall₂ (fun rule net => rule.range? = some (net.address, net.mask))
        restrictions nets ∧ List.Forall₂ Rule.Sends rules nets := by
  rw [Indexed.traverse_eq_ok_iff_forall₂ (f := expandRule)
    fun _ _ _ => expandRule_eq_ok_iff_encodes] at h
  refine Indexed.exists_forall₂_between (fun rule sent hsent => ?_) h
  obtain ⟨c, net, hencodes, rfl⟩ := hsent
  obtain ⟨m, hrange, hm⟩ := hencodes.range?_eq
  have hmask : m = net.mask := hm.unique (Mask.hasLength_ofLength hm.le)
  subst hmask
  exact ⟨net, hrange, c, rfl, hencodes.parse?⟩

/-! ## Blocks -/

namespace Block

/-- The block is what another one comes back as. -/
structure Restates (flat block : Block) : Prop where
  ipRestriction : List.Forall₂ Restriction.Restates flat.ipRestriction block.ipRestriction
  managedPipelineMode :
    block.managedPipelineMode.Respelled PipelineMode flat.managedPipelineMode
  scmType : block.scmType.Respelled SourceControl flat.scmType
  ftpsState : block.ftpsState.Respelled FtpsState flat.ftpsState
  minTlsVersion : block.minTlsVersion.Respelled TlsVersion flat.minTlsVersion
  /-- All other fields have their values given, and the names of the documents are the same. -/
  settled : flat = { block.settled with
    ipRestriction := flat.ipRestriction
    managedPipelineMode := flat.managedPipelineMode
    scmType := flat.scmType
    ftpsState := flat.ftpsState
    minTlsVersion := flat.minTlsVersion }

/-- **Flattening what was sent for a block gives the block back**, restated; and what is sent for
that flattens to the same block again. -/
theorem restates_of_expandFirst {blocks : List Block} {body : Body}
    (h : expandFirst blocks = .ok body) :
    ∃ flat, Body.flattenOption (some body) = .ok [flat] ∧
      (∀ block rest, blocks = block :: rest → flat.Restates block) ∧
      ∃ body', expandFirst [flat] = .ok body' ∧ Body.flattenOption (some body') = .ok [flat] := by
  have hknown := allKnown_of_expandFirst h
  cases blocks with
  | nil =>
    cases h
    obtain ⟨hflat, hagain, hsame⟩ := Body.expandFirst_blockWith hknown .nil
    refine ⟨_, hflat, ?_, _, hagain, hsame⟩
    intro block rest hcons
    cases hcons
  | cons first rest =>
    obtain ⟨rules, mode, scm, ftps, tls, hrules, hmode, hscm, hftps, htls, rfl⟩ :=
      expand_eq_ok_iff.mp h
    obtain ⟨nets, hranges, hsends⟩ := exists_networks hrules
    obtain ⟨hflat, hagain, hsame⟩ := Body.expandFirst_blockWith hknown hsends
    refine ⟨_, hflat, ?_, _, hagain, hsame⟩
    intro block rest hcons
    cases hcons
    exact {
      ipRestriction := by
        refine List.forall₂_map_left_iff.mpr (List.Forall₂.flip ?_)
        exact hranges.imp fun _ _ hrange => Network.restates hrange
      managedPipelineMode := respelled_of_expandEnum rfl hmode
      scmType := respelled_of_expandEnum rfl hscm
      ftpsState := respelled_of_expandEnum rfl hftps
      minTlsVersion := respelled_of_expandEnum rfl htls
      settled := rfl }

/-- A block as no document gives it: a text in another case that the schema would have filled in,
an enumeration that is left blank, and a network with white space around it. -/
def sampleAssembled : Block where
  alwaysOn := .filled true
  ipRestriction := [⟨" 10.0.0.0/+24 ", .unset⟩, ⟨"10.0.0.1", .given " 255.255.0.0"⟩]
  javaVersion := .given "any"
  scmType := .filled "localgit"
  ftpsState := .given ""

/-- It comes back with the text respelled, with the blank still blank, and with each network as an
address and a mask. -/
theorem restates_sampleAssembled :
    ∃ body flat, expandFirst [sampleAssembled] = .ok body ∧
      Body.flattenOption (some body) = .ok [flat] ∧ flat.Restates sampleAssembled ∧
      flat.scmType = .given "LocalGit" ∧ flat.ftpsState = .given "" ∧
      flat.ipRestriction = [⟨"10.0.0.0", .given "255.255.255.0"⟩,
        ⟨"10.0.0.1", .given "255.255.0.0"⟩] ∧
      ∃ body', expandFirst [flat] = .ok body' ∧ Body.flattenOption (some body') = .ok [flat] := by
  obtain ⟨body, blocks, hbody, hblocks, hshape⟩ : ∃ body blocks,
      expandFirst [sampleAssembled] = .ok body ∧ Body.flattenOption (some body) = .ok blocks ∧
        blocks.map Block.scmType = [.given "LocalGit"] ∧ blocks.map Block.ftpsState = [.given ""] ∧
        blocks.map Block.ipRestriction = [[⟨"10.0.0.0", .given "255.255.255.0"⟩,
          ⟨"10.0.0.1", .given "255.255.0.0"⟩]] := ⟨_, _, rfl, rfl, rfl, rfl, rfl⟩
  obtain ⟨flat, hflat, hrestates, hagain⟩ := restates_of_expandFirst hbody
  cases hblocks.symm.trans hflat
  simp only [List.map_cons, List.map_nil, List.cons.injEq, and_true] at hshape
  obtain ⟨hscm, hftps, hrules⟩ := hshape
  exact ⟨body, flat, hbody, hflat, hrestates _ _ rfl, hscm, hftps, hrules, hagain⟩

end Block

end SiteConfig
