import SiteConfig.Proofs.Block.Written
import SiteConfig.Proofs.Mapping.Response

/-!
# When a response is a document

The block that a response flattens to is written as a document, and the document is read as if a
user had written it. The schema may refuse it: the service knows values that the schema does not.
If it is accepted, the same is sent for it, but for what the schema fills in.

- `Block.TextsAccepted`: every text of a block can stand in its document.
- `Block.takes_iff`: which blocks come back from their document.
- `Body.defaulted`: a body with what the schema fills in.
- `Body.decode_of_flattenOption`: the main statement, for all bodies.
-/

namespace SiteConfig

/-! ## One field -/

namespace FieldSpec

variable {spec : FieldSpec}

/-- A text can stand in a field: the field accepts it, or it is blank and the field is an
enumeration. -/
def AdmitsText (spec : FieldSpec) (s : String) : Prop :=
  spec.accepts s = true ∨ (s = "" ∧ spec ∈ Schema.enumerations)

theorem takesText_some_iff (hspec : spec ∈ Schema.siteConfig) {s : String} :
    spec.TakesText (some s) ↔ spec.AdmitsText s := by
  unfold TakesText AdmitsText
  rw [Schema.mem_enumerations_iff spec hspec, or_comm]

/-- What is read back for a field that is no enumeration: the value, or the default. -/
theorem value?_rereadText_of_not_blank (h : spec.blankIsUnset = false) (s? : Option String) :
    (spec.rereadText s?).value? = s?.or spec.presetText? := by
  cases s? with
  | none => rw [rereadText, Setting.value?_resolve]
  | some s =>
    have hgiven : ¬ (s = "" ∧ spec.blankIsUnset = true) := by
      rintro ⟨-, hblank⟩
      rw [h] at hblank
      cases hblank
    rw [rereadText, if_neg hgiven]
    rfl

/-- A setting that can be written for an enumeration expands, and what is read back for it expands
to the same value, unless it is the zero value: that one gives way to the default. -/
theorem Names.exists_expandEnum_reread {E : Type} [Vocabulary E] [Vocabulary.Lawful E]
    [DecidableEq E] (hnames : spec.Names E) (preset : Reported E)
    (hpreset : Block.expandEnum spec (.resolve none spec.presetText?) = .ok preset)
    {setting : Setting String} (htakes : spec.TakesText setting.value?) :
    ∃ x : Reported E, Block.expandEnum spec setting = .ok x ∧
      Block.expandEnum spec (spec.rereadText setting.value?)
        = .ok (if x = .zero then preset else x) := by
  cases hvalue : setting.value? with
  | none =>
    refine ⟨.zero, Block.expandEnum_eq_ok_iff.mpr (.inl ⟨hvalue, rfl⟩), ?_⟩
    rw [rereadText, if_pos rfl]
    exact hpreset
  | some t =>
    rw [hvalue] at htakes
    by_cases hblank : t = ""
    · have hparse : (Vocabulary.parse? t : Option E) = some Vocabulary.zero := by
        rw [hblank, ← hnames.zero, Vocabulary.Lawful.parse?_spelling]
      refine ⟨.zero, Block.expandEnum_eq_ok_iff.mpr (.inr ⟨t, _, hvalue, hparse, rfl⟩), ?_⟩
      rw [rereadText, if_pos ⟨hblank, hnames.blank⟩, if_pos rfl]
      exact hpreset
    · have hnot : ¬ (t = "" ∧ spec.blankIsUnset = true) := fun h => hblank h.1
      have hholds : spec.HoldsText (.given t) := ⟨htakes.resolve_left hnot, hnot⟩
      obtain ⟨e, hparse, hspell⟩ := hnames.exists_parse? hholds rfl
      -- The closed set has no blank text, so that the value is not the zero value.
      have hne : (.known e : Reported E) ≠ .zero := by
        intro hzero
        cases hzero
        exact (hnames.spelled _ hspell).1 hnames.zero
      refine ⟨.known e, Block.expandEnum_eq_ok_iff.mpr (.inr ⟨t, e, hvalue, hparse, rfl⟩), ?_⟩
      rw [rereadText, if_neg hnot, if_neg hne]
      exact Block.expandEnum_eq_ok_iff.mpr (.inr ⟨t, e, rfl, hparse, rfl⟩)

/-- Without a default, what is read back expands to the same value. -/
theorem Names.exists_expandEnum_same {E : Type} [Vocabulary E] [Vocabulary.Lawful E]
    [DecidableEq E] (hnames : spec.Names E) (hnone : spec.presetText? = none)
    {setting : Setting String} (htakes : spec.TakesText setting.value?) :
    ∃ x : Reported E, Block.expandEnum spec setting = .ok x ∧
      Block.expandEnum spec (spec.rereadText setting.value?) = .ok x := by
  have hpreset : Block.expandEnum spec (.resolve none spec.presetText?)
      = .ok (.zero : Reported E) := by
    rw [hnone]
    rfl
  obtain ⟨x, hx, hagain⟩ := hnames.exists_expandEnum_reread .zero hpreset htakes
  have hsame : (if x = .zero then .zero else x) = x := by
    split
    · next hzero => exact hzero.symm
    · rfl
  rw [hsame] at hagain
  exact ⟨x, hx, hagain⟩

end FieldSpec

/-! ## Access rules -/

/-- The mask that the schema fills in is that of a single host. -/
theorem Cidr.encode_hostMask {ip : String} (h : '/' ∉ ip.toList) :
    encode ip Schema.hostMask = encode ip "" := by
  have hmask : Schema.hostMask ≠ "" := by decide
  have hread : address Schema.hostMask = .ok (BitVec.allOnes 32) := rfl
  have hlength : prefixLength (BitVec.allOnes 32) = .ok Mask.maxPrefix := rfl
  unfold encode
  rw [if_pos hmask, if_neg (not_not_intro rfl), if_neg h, hread]
  cases address ip with
  | error fault => rfl
  | ok a =>
    simp only [bind, Except.bind, hlength]

namespace Restriction

/-- Without a prefix, an access rule that is read back is sent as the one that was written. -/
theorem cidr_reread {rule : Restriction} (h : '/' ∉ rule.ipAddress.toList) :
    rule.reread.cidr = rule.cidr := by
  obtain ⟨ip, mask⟩ := rule
  cases mask with
  | unset =>
    have hfilled : effectiveMask (reread ⟨ip, .unset⟩) = Schema.hostMask := if_neg h
    unfold cidr
    rw [hfilled]
    exact Cidr.encode_hostMask h
  | filled m =>
    have hcounts : effectiveMask ⟨ip, .filled m⟩ = m := if_neg h
    rw [reread_of_value? rfl]
    unfold cidr
    rw [hcounts]
    rfl
  | given m => rw [reread_of_value? rfl]

end Restriction

/-! ## Blocks -/

namespace Block

/-- Every text of the block's document can stand in its field. -/
def TextsAccepted (block : Block) : Prop :=
  ∀ spec ∈ Schema.siteConfig, ∀ s, block.fields.get? spec.name = some (.text s) →
    spec.AdmitsText s

theorem holds_fields (block : Block) : block.fields.Holds block.slots := by
  rw [fields_eq]
  exact Fields.holds_ofSlots block.slotNames_nodup

theorem TextsAccepted.takesText {block : Block} (h : block.TextsAccepted) {spec : FieldSpec}
    (hspec : spec ∈ Schema.siteConfig) {s? : Option String}
    (hget : block.fields.get? spec.name = s?.map .text) : spec.TakesText s? := by
  cases s? with
  | none => trivial
  | some s => exact (FieldSpec.takesText_some_iff hspec).mpr (h spec hspec s hget)

/-- What can be written are the texts that the schema accepts, and the access rules that can be sent
when they are read back. -/
theorem takes_iff {block : Block} :
    block.Takes ↔
      block.TextsAccepted ∧ ∀ rule ∈ block.ipRestriction, ∃ c, rule.reread.cidr = .ok c := by
  have hholds := block.holds_fields
  constructor
  · intro h
    refine ⟨fun spec hspec => ?_, h.ipRestriction⟩
    have htext : ∀ {spec : FieldSpec} {s? : Option String}, spec ∈ Schema.siteConfig →
        spec.TakesText s? → ∀ s, s?.map Value.text = some (.text s) → spec.AdmitsText s := by
      intro spec s? hspec htakes s hs
      obtain ⟨t, rfl, heq⟩ := Option.map_eq_some_iff.mp hs
      cases heq
      exact (FieldSpec.takesText_some_iff hspec).mp htakes
    have hflag : ∀ {spec : FieldSpec} {b? : Option Bool},
        ∀ s, b?.map Value.bool = some (.text s) → spec.AdmitsText s := by
      intro spec b? s hs
      obtain ⟨b, -, heq⟩ := Option.map_eq_some_iff.mp hs
      cases heq
    have hlist : ∀ {spec : FieldSpec} {vs : List Value},
        ∀ s, some (Value.list vs) = some (.text s) → spec.AdmitsText s := by
      intro spec vs s hs
      cases hs
    have hslots : ∀ slot ∈ block.slots, ∀ s, slot.2 = some (.text s) → slot.1.AdmitsText s := by
      unfold slots
      simp only [List.forall_mem_cons]
      exact ⟨hflag, hlist, htext (by decide) h.dotnetFrameworkVersion, hflag, hlist,
        htext (by decide) h.javaVersion, htext (by decide) h.javaContainer,
        htext (by decide) h.javaContainerVersion, hflag, htext (by decide) h.managedPipelineMode,
        htext (by decide) h.phpVersion, htext (by decide) h.pythonVersion, hflag,
        htext (by decide) h.remoteDebuggingVersion, htext (by decide) h.scmType, hflag, hflag,
        htext (by decide) h.ftpsState, htext (by decide) h.linuxFxVersion,
        htext (by decide) h.minTlsVersion, htext (by decide) h.virtualNetworkName,
        fun _ hnil => absurd hnil List.not_mem_nil⟩
    -- The slots are those of the schema.
    have hmem : spec ∈ block.slots.map Prod.fst := hspec
    obtain ⟨⟨_, v?⟩, hslot, rfl⟩ := List.mem_map.mp hmem
    intro s hget
    exact hslots _ hslot s ((hholds.get? _ v? hslot).symm.trans hget)
  · rintro ⟨h, hrules⟩
    exact {
      dotnetFrameworkVersion := h.takesText (by decide) (hholds.at 2 rfl)
      ipRestriction := hrules
      javaVersion := h.takesText (by decide) (hholds.at 5 rfl)
      javaContainer := h.takesText (by decide) (hholds.at 6 rfl)
      javaContainerVersion := h.takesText (by decide) (hholds.at 7 rfl)
      managedPipelineMode := h.takesText (by decide) (hholds.at 9 rfl)
      phpVersion := h.takesText (by decide) (hholds.at 10 rfl)
      pythonVersion := h.takesText (by decide) (hholds.at 11 rfl)
      remoteDebuggingVersion := h.takesText (by decide) (hholds.at 13 rfl)
      scmType := h.takesText (by decide) (hholds.at 14 rfl)
      ftpsState := h.takesText (by decide) (hholds.at 17 rfl)
      linuxFxVersion := h.takesText (by decide) (hholds.at 18 rfl)
      minTlsVersion := h.takesText (by decide) (hholds.at 19 rfl)
      virtualNetworkName := h.takesText (by decide) (hholds.at 20 rfl) }

end Block

/-- The body with what the schema fills in. -/
def Body.defaulted (body : Body) : Body :=
  { body with
    alwaysOn := some (body.alwaysOn.getD false)
    netFrameworkVersion := some (body.netFrameworkVersion.getD "v4.0")
    http20Enabled := some (body.http20Enabled.getD false)
    remoteDebuggingEnabled := some (body.remoteDebuggingEnabled.getD false)
    scmType := if body.scmType = .zero then .known .none else body.scmType }

namespace Block

theorem reread_bodyWith (block : Block) (rules : List Rule) (mode : Reported PipelineMode)
    (scm : Reported SourceControl) (ftps : Reported FtpsState) (tls : Reported TlsVersion) :
    block.reread.bodyWith rules mode (if scm = .zero then .known .none else scm) ftps tls
      = (block.bodyWith rules mode scm ftps tls).defaulted := by
  unfold reread bodyWith Body.defaulted
  simp (disch := decide) only [Setting.value?_resolve, FieldSpec.value?_rereadText_of_not_blank]
  simp only [FieldSpec.presetText?, FieldSpec.presetBool?, Schema.alwaysOn,
    Schema.dotnetFrameworkVersion, Schema.http2Enabled, Schema.javaVersion, Schema.javaContainer,
    Schema.javaContainerVersion, Schema.localMysqlEnabled, Schema.phpVersion, Schema.pythonVersion,
    Schema.remoteDebuggingEnabled, Schema.remoteDebuggingVersion, Schema.use32BitWorkerProcess,
    Schema.websocketsEnabled, Schema.linuxFxVersion, Schema.virtualNetworkName, Option.or_some,
    Option.or_none]

/-- What is read back for a block expands as the block does, but for what the schema fills in, if
the same is sent for its access rules. -/
theorem expand_reread {block : Block} (htakes : block.Takes)
    (hsame : ∀ rule ∈ block.ipRestriction, rule.reread.cidr = rule.cidr) :
    ∃ sent, block.expand = .ok sent ∧ block.reread.expand = .ok sent.defaulted := by
  obtain ⟨rules, hrules⟩ :=
    exists_traverse_expandRule_iff.mpr fun rule hrule =>
      hsame rule hrule ▸ htakes.ipRestriction rule hrule
  have hrules' : Indexed.traverse expandRule (block.ipRestriction.map Restriction.reread)
      = .ok rules := (traverse_expandRule_map hsame).trans hrules
  obtain ⟨mode, hmode, hmode'⟩ :=
    Schema.managedPipelineMode_names.exists_expandEnum_same rfl htakes.managedPipelineMode
  obtain ⟨scm, hscm, hscm'⟩ :=
    Schema.scmType_names.exists_expandEnum_reread (.known .none) rfl htakes.scmType
  obtain ⟨ftps, hftps, hftps'⟩ :=
    Schema.ftpsState_names.exists_expandEnum_same rfl htakes.ftpsState
  obtain ⟨tls, htls, htls'⟩ :=
    Schema.minTlsVersion_names.exists_expandEnum_same rfl htakes.minTlsVersion
  have hexpand : block.expand = .ok (block.bodyWith rules mode scm ftps tls) :=
    expand_eq_ok_iff.mpr ⟨rules, mode, scm, ftps, tls, hrules, hmode, hscm, hftps, htls, rfl⟩
  refine ⟨_, hexpand, expand_eq_ok_iff.mpr ?_⟩
  exact ⟨rules, mode, _, ftps, tls, hrules', hmode', hscm', hftps', htls',
    (block.reread_bodyWith rules mode scm ftps tls).symm⟩

end Block

/-! ## Responses -/

namespace Body

/-- **When a response is a document, and what is sent for it then.** The document of the block that
a body flattens to is accepted exactly if all its texts are ones that the schema accepts and all its
access rules can be sent. Then the block and what is read back for it both expand, to the same body
but for what the schema fills in. -/
theorem decode_of_flattenOption {body : Body} {blocks : List Block}
    (hflat : flattenOption (some body) = .ok blocks) :
    ∃ flat, blocks = [flat] ∧
      ((∃ again, Block.decode (Block.documents blocks).ordered = .ok again) ↔
        flat.TextsAccepted ∧ ∀ rule ∈ flat.ipRestriction, ∃ c, rule.cidr = .ok c) ∧
      ∀ again, Block.decode (Block.documents blocks).ordered = .ok again →
        ∃ sent, Block.expandFirst blocks = .ok sent ∧
          Block.expandFirst again = .ok sent.defaulted := by
  obtain ⟨flats, hflats, rfl⟩ := flattenOption_eq_ok_iff.mp hflat
  have hrules := traverse_flattenRule_eq_ok_iff.mp hflats
  have hsame : ∀ rule ∈ (body.blockWith flats).ipRestriction, rule.reread.cidr = rule.cidr :=
    Indexed.forall_of_forall₂ (fun _ _ h => Restriction.cidr_reread h.slash_not_mem) hrules
  have htakes : (body.blockWith flats).Takes ↔ (body.blockWith flats).TextsAccepted ∧
      ∀ rule ∈ (body.blockWith flats).ipRestriction, ∃ c, rule.cidr = .ok c := by
    rw [Block.takes_iff]
    refine and_congr_right fun _ => forall₂_congr fun rule hrule => ?_
    rw [hsame rule hrule]
  refine ⟨_, rfl, ?_, ?_⟩
  · rw [← htakes]
    constructor
    · rintro ⟨again, hagain⟩
      exact (Block.decode_documents_singleton_eq_ok_iff.mp hagain).1
    · intro h
      exact ⟨_, Block.decode_documents_singleton_eq_ok_iff.mpr ⟨h, rfl⟩⟩
  · intro again hagain
    obtain ⟨h, rfl⟩ := Block.decode_documents_singleton_eq_ok_iff.mp hagain
    exact Block.expand_reread h hsame

/-- A response that leaves the source control open, with a bare address and a network. -/
def sampleReport : Body where
  javaVersion := some "1.8"
  ipSecurityRestrictions := some [⟨some " 10.1.0.1 ", none⟩, ⟨some "10.0.0.0/24", some ""⟩]
  ftpsState := .known .ftpsOnly

/-- The block that the response flattens to. -/
def sampleReported : Block where
  javaVersion := .given "1.8"
  ipRestriction := [⟨" 10.1.0.1 ", .unset⟩, ⟨"10.0.0.0", .given "255.255.255.0"⟩]
  managedPipelineMode := .given ""
  scmType := .given ""
  ftpsState := .given "FtpsOnly"
  minTlsVersion := .given ""

theorem takes_sampleReported : sampleReported.Takes where
  dotnetFrameworkVersion := trivial
  ipRestriction := by
    intro rule hrule
    simp only [sampleReported, List.mem_cons, List.not_mem_nil, or_false] at hrule
    rcases hrule with rfl | rfl
    · exact ⟨_, rfl⟩
    · exact ⟨_, rfl⟩
  javaVersion := by decide
  javaContainer := trivial
  javaContainerVersion := trivial
  managedPipelineMode := by decide
  phpVersion := trivial
  pythonVersion := trivial
  remoteDebuggingVersion := trivial
  scmType := by decide
  ftpsState := by decide
  linuxFxVersion := trivial
  minTlsVersion := by decide
  virtualNetworkName := trivial

/-- The document of the sample response is accepted, and the source control that it leaves open is
none at all for the schema. -/
theorem decode_sampleReport :
    flattenOption (some sampleReport) = .ok [sampleReported] ∧
      ∃ again sent, Block.decode (Block.documents [sampleReported]).ordered = .ok again ∧
        Block.expandFirst [sampleReported] = .ok sent ∧ sent.alwaysOn = none ∧
        sent.scmType = .zero ∧ Block.expandFirst again = .ok sent.defaulted ∧
        sent.defaulted.alwaysOn = some false ∧ sent.defaulted.scmType = .known .none := by
  have hflat : flattenOption (some sampleReport) = .ok [sampleReported] := rfl
  obtain ⟨flat, hone, haccepted, hsame⟩ := decode_of_flattenOption hflat
  cases hone
  have hcidr : ∀ rule ∈ sampleReported.ipRestriction, ∃ c, rule.cidr = .ok c := by
    intro rule hrule
    simp only [sampleReported, List.mem_cons, List.not_mem_nil, or_false] at hrule
    rcases hrule with rfl | rfl
    · exact ⟨_, rfl⟩
    · exact ⟨_, rfl⟩
  obtain ⟨again, hagain⟩ := haccepted.mpr ⟨(Block.takes_iff.mp takes_sampleReported).1, hcidr⟩
  obtain ⟨sent, hsent, hon, hscm⟩ : ∃ sent, Block.expandFirst [sampleReported] = .ok sent ∧
      sent.alwaysOn = none ∧ sent.scmType = .zero := ⟨_, rfl, rfl, rfl⟩
  obtain ⟨sent', hsent', hresent⟩ := hsame again hagain
  cases hsent.symm.trans hsent'
  refine ⟨hflat, again, sent, hagain, hsent, hon, hscm, hresent, ?_, ?_⟩
  · rw [defaulted, hon]
    rfl
  · rw [defaulted, hscm]
    rfl

end Body

end SiteConfig
