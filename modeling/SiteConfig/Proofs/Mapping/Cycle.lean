import SiteConfig.Proofs.Block.Written
import SiteConfig.Proofs.Mapping.Flattening

/-!
# The cycle from body to body

A body is turned into a block, the block into a document, the document into a block and that into
a body. For a body that was made from a document, all of this succeeds, and the body that comes out
is the one that went in, but that the networks are in canonical notation. From then on nothing
changes any more.

- `Body.cycle`: once around.
- `Body.canonical`: the body with its networks in canonical notation.
- `Block.cycle_of_decode`: the main statement, for all documents.
-/

namespace SiteConfig

/-! ## Canonical notation -/

/-- The rule's text is sent as it is written: no mask counts, and the address has a prefix. -/
def Restriction.PassesThrough (rule : Restriction) : Prop :=
  rule.effectiveMask = "" ∧ '/' ∈ rule.ipAddress.toList

namespace Rule

/-- The rule with the text of its network in canonical notation. -/
def canonical (rule : Rule) : Rule :=
  match rule.ipAddress.bind fun c => Network.parse? c.toList with
  | some net => { rule with ipAddress := some (String.ofList net.text) }
  | none => rule

theorem Sends.canonical_eq {rule : Rule} {net : Network} (h : rule.Sends net) :
    rule.canonical = ⟨some (String.ofList net.text), some ""⟩ := by
  obtain ⟨c, rfl, hnet⟩ := h
  simp only [canonical, Option.bind_some, hnet]

theorem Sends.canonical {rule : Rule} {net : Network} (h : rule.Sends net) :
    rule.canonical.Sends net := by
  rw [h.canonical_eq]
  exact sends_text h.length_le

theorem Sends.canonical_canonical {rule : Rule} {net : Network} (h : rule.Sends net) :
    rule.canonical.canonical = rule.canonical := by
  rw [h.canonical.canonical_eq, h.canonical_eq]

end Rule

namespace Body

/-- The body with its networks in canonical notation, and nothing else changed. -/
def canonical (body : Body) : Body :=
  { body with
    ipSecurityRestrictions := body.ipSecurityRestrictions.map fun rules =>
      rules.map Rule.canonical }

/-- Once around: to a block, to a document, to a block and to a body again. -/
def cycle (body : Body) : Except Fault Body := do
  let blocks ← flattenOption (some body)
  let again ← Block.decode (Block.documents blocks).ordered
  Block.expandFirst again

end Body

/-! ## Fields on their way around -/

namespace FieldSpec

variable {spec : FieldSpec}

/-- The value of a setting can be written once it has been sent and read back. -/
theorem takesText_copied {setting : Setting String} (h : spec.HoldsText setting)
    (hspec : spec ∈ Schema.siteConfig ++ Schema.ipRestriction) :
    spec.TakesText (Setting.ofOption setting.value?).value? := by
  rw [Setting.value?_ofOption]
  exact h.takesText hspec

theorem value?_rereadText {setting : Setting String} (h : spec.HoldsText setting)
    (hspec : spec ∈ Schema.siteConfig ++ Schema.ipRestriction) :
    (spec.rereadText (Setting.ofOption setting.value?).value?).value? = setting.value? := by
  rw [Setting.value?_ofOption, h.rereadText_eq hspec, Setting.value?_settled]

theorem value?_resolve {setting : Setting Bool} (h : spec.HoldsFlag setting) :
    (Setting.resolve (Setting.ofOption setting.value?).value? spec.presetBool?).value?
      = setting.value? := by
  rw [Setting.value?_ofOption, h.resolve_eq, Setting.value?_settled]

/-- The spelling of a value that a field expands to can be written for the field, and what is read
back expands to the same value. -/
theorem Names.expandEnum_rereadText {E : Type} [Vocabulary E] [Vocabulary.Lawful E]
    (hnames : spec.Names E) {setting : Setting String} (h : spec.HoldsText setting)
    {x : Reported E} (hx : Block.expandEnum spec setting = .ok x) :
    spec.TakesText (some x.text) ∧
      Block.expandEnum spec (spec.rereadText (some x.text)) = .ok x := by
  obtain ⟨e, he, hcases⟩ := Block.exists_expandEnum hnames h
  cases he.symm.trans hx
  rcases hcases with ⟨hunset, rfl⟩ | ⟨-, hspell⟩
  · have hblank : Reported.text (.known (Vocabulary.zero : E)) = "" ∧ spec.blankIsUnset = true :=
      ⟨hnames.zero, hnames.blank⟩
    refine ⟨.inl hblank, ?_⟩
    -- The blank text is read as unset, since the field has no default to fill in.
    rw [rereadText, if_pos hblank, h.presetText?_eq_none hunset]
    rfl
  · have hne := (hnames.spelled _ hspell).1
    refine ⟨.inr (accepts_of_mem hspell), ?_⟩
    rw [rereadText, if_neg fun hblank => hne hblank.1]
    simp only [Block.expandEnum, Setting.value?_given, Reported.text,
      Vocabulary.Lawful.parse?_spelling]

end FieldSpec

/-- The access rule of a network is read back as it is written. -/
theorem Network.reread_restriction (net : Network) : net.restriction.reread = net.restriction :=
  Restriction.reread_of_value? rfl

/-! ## Once around -/

namespace Block

/-- What the rules that are sent flatten to is sent in canonical notation. -/
theorem traverse_reread {rules : List Rule} {restrictions : List Restriction}
    (hlength : restrictions.length = rules.length)
    (hflat : ∀ (i : Nat) (sent : Rule), rules[i]? = some sent →
      ∃ net, sent.Sends net ∧ restrictions[i]? = some net.restriction) :
    Indexed.traverse expandRule (restrictions.map Restriction.reread)
      = .ok (rules.map Rule.canonical) := by
  rw [Indexed.traverse_map, Indexed.traverse_eq_ok_iff, List.length_map]
  refine ⟨hlength.symm, fun i restriction hrestriction => ?_⟩
  obtain ⟨hi, -⟩ := List.getElem?_eq_some_iff.mp hrestriction
  obtain ⟨sent, hsent⟩ : ∃ sent, rules[i]? = some sent :=
    ⟨_, List.getElem?_eq_getElem (hlength ▸ hi)⟩
  obtain ⟨net, hnet, hrestriction'⟩ := hflat i sent hsent
  cases hrestriction.symm.trans hrestriction'
  refine ⟨sent.canonical, by rw [List.getElem?_map, hsent]; rfl, ?_⟩
  rw [net.reread_restriction]
  exact expandRule_eq_ok_iff.mpr ⟨_, net.cidr_restriction hnet.length_le, hnet.canonical_eq⟩

/-- The block that a body flattens to can be written, if the body was made from a valid block. -/
theorem takes_blockWith {block : Block} (h : block.Valid) {rules : List Rule}
    {mode : Reported PipelineMode} {scm : Reported SourceControl} {ftps : Reported FtpsState}
    {tls : Reported TlsVersion} {restrictions : List Restriction}
    (hmode : Schema.managedPipelineMode.TakesText (some mode.text))
    (hscm : Schema.scmType.TakesText (some scm.text))
    (hftps : Schema.ftpsState.TakesText (some ftps.text))
    (htls : Schema.minTlsVersion.TakesText (some tls.text))
    (hrules : ∀ rule ∈ restrictions, ∃ c, rule.reread.cidr = .ok c) :
    ((block.bodyWith rules mode scm ftps tls).blockWith restrictions).Takes where
  dotnetFrameworkVersion := FieldSpec.takesText_copied h.dotnetFrameworkVersion (by decide)
  ipRestriction := hrules
  javaVersion := FieldSpec.takesText_copied h.javaVersion (by decide)
  javaContainer := FieldSpec.takesText_copied h.javaContainer (by decide)
  javaContainerVersion := FieldSpec.takesText_copied h.javaContainerVersion (by decide)
  managedPipelineMode := hmode
  phpVersion := FieldSpec.takesText_copied h.phpVersion (by decide)
  pythonVersion := FieldSpec.takesText_copied h.pythonVersion (by decide)
  remoteDebuggingVersion := FieldSpec.takesText_copied h.remoteDebuggingVersion (by decide)
  scmType := hscm
  ftpsState := hftps
  linuxFxVersion := FieldSpec.takesText_copied h.linuxFxVersion (by decide)
  minTlsVersion := htls
  virtualNetworkName := FieldSpec.takesText_copied h.virtualNetworkName (by decide)

/-- What is read back has the values of the block that the body was made from. -/
theorem bodyWith_reread {block : Block} (h : block.Valid) (rules : List Rule)
    (mode : Reported PipelineMode) (scm : Reported SourceControl) (ftps : Reported FtpsState)
    (tls : Reported TlsVersion) (restrictions : List Restriction) :
    ((block.bodyWith rules mode scm ftps tls).blockWith restrictions).reread.bodyWith
        (rules.map Rule.canonical) mode scm ftps tls
      = (block.bodyWith rules mode scm ftps tls).canonical := by
  unfold reread Body.blockWith bodyWith Body.canonical
  simp only [Option.getD_some, Option.map_some,
    FieldSpec.value?_resolve h.alwaysOn,
    FieldSpec.value?_rereadText h.dotnetFrameworkVersion (by decide),
    FieldSpec.value?_resolve h.http2Enabled, FieldSpec.value?_rereadText h.javaVersion (by decide),
    FieldSpec.value?_rereadText h.javaContainer (by decide),
    FieldSpec.value?_rereadText h.javaContainerVersion (by decide),
    FieldSpec.value?_resolve h.localMysqlEnabled,
    FieldSpec.value?_rereadText h.phpVersion (by decide),
    FieldSpec.value?_rereadText h.pythonVersion (by decide),
    FieldSpec.value?_resolve h.remoteDebuggingEnabled,
    FieldSpec.value?_rereadText h.remoteDebuggingVersion (by decide),
    FieldSpec.value?_resolve h.use32BitWorkerProcess, FieldSpec.value?_resolve h.websocketsEnabled,
    FieldSpec.value?_rereadText h.linuxFxVersion (by decide),
    FieldSpec.value?_rereadText h.virtualNetworkName (by decide)]

/-- **Once around**, for a body that was made from a valid block. -/
theorem exists_cycle {block : Block} (h : block.Valid) {body : Body}
    (hbody : block.expand = .ok body) :
    ∃ flat again, body.flatten = .ok flat ∧ decodeOne flat.document.ordered = .ok again ∧
      again.expand = .ok body.canonical := by
  obtain ⟨rules, mode, scm, ftps, tls, hrules, hmode, hscm, hftps, htls, rfl⟩ :=
    expand_eq_ok_iff.mp hbody
  obtain ⟨restrictions, hflatten, hlength, hflat⟩ :=
    Body.exists_traverse_flattenRule (sends_of_traverse hrules)
  obtain ⟨hmode, hmode'⟩ :=
    Schema.managedPipelineMode_names.expandEnum_rereadText h.managedPipelineMode hmode
  obtain ⟨hscm, hscm'⟩ := Schema.scmType_names.expandEnum_rereadText h.scmType hscm
  obtain ⟨hftps, hftps'⟩ := Schema.ftpsState_names.expandEnum_rereadText h.ftpsState hftps
  obtain ⟨htls, htls'⟩ := Schema.minTlsVersion_names.expandEnum_rereadText h.minTlsVersion htls
  have hsent := traverse_reread hlength hflat
  have hcidr : ∀ rule ∈ restrictions, ∃ c, rule.reread.cidr = .ok c := by
    intro rule hrule
    obtain ⟨i, hi⟩ := List.mem_iff_getElem?.mp hrule
    rw [Indexed.traverse_map] at hsent
    obtain ⟨sent, -, hexpand⟩ := ((Indexed.traverse_eq_ok_iff _ _ _).mp hsent).2 i rule hi
    obtain ⟨c, hc, -⟩ := expandRule_eq_ok_iff.mp hexpand
    exact ⟨c, hc⟩
  refine ⟨_, _, Body.flatten_eq_ok_iff.mpr ⟨restrictions, hflatten, rfl⟩,
    decodeOne_document_ordered.mpr ⟨takes_blockWith h hmode hscm hftps htls hcidr, rfl⟩,
    expand_eq_ok_iff.mpr ⟨_, _, _, _, _, hsent, hmode', hscm', hftps', htls', ?_⟩⟩
  exact (bodyWith_reread h rules mode scm ftps tls restrictions).symm

/-- The body that expanding makes is the same whether its networks are put in canonical notation
once or twice. -/
theorem canonical_canonical {block : Block} {body : Body} (h : block.expand = .ok body) :
    body.canonical.canonical = body.canonical := by
  obtain ⟨rules, mode, scm, ftps, tls, hrules, -, -, -, -, rfl⟩ := expand_eq_ok_iff.mp h
  have hrules' : (rules.map Rule.canonical).map Rule.canonical = rules.map Rule.canonical := by
    rw [List.map_map]
    refine List.map_congr_left fun sent hsent => ?_
    obtain ⟨net, hnet⟩ := sends_of_traverse hrules sent hsent
    exact hnet.canonical_canonical
  unfold Body.canonical bodyWith
  simp only [Option.map_some, hrules']

theorem cycle_eq_ok {body body' : Body} {flat again : Block} (hflat : body.flatten = .ok flat)
    (hagain : decodeOne flat.document.ordered = .ok again) (hbody' : again.expand = .ok body') :
    body.cycle = .ok body' := by
  have hdecode : decode (documents [flat]).ordered = .ok [again] := by
    rw [decode_documents_singleton, hagain]
    rfl
  unfold Body.cycle
  rw [Steps.bind_eq_ok]
  refine ⟨[flat], Body.flattenOption_eq_ok hflat, ?_⟩
  rw [Steps.bind_eq_ok]
  exact ⟨[again], hdecode, hbody'⟩

/-- What is sent for an access rule: a network, as the user wrote it if it is passed through, and
otherwise in canonical notation. -/
theorem canonical_of_expandRule {i : Nat} {rule : Restriction} {sent : Rule}
    (h : expandRule i rule = .ok sent) :
    ∃ net, sent.Sends net ∧ sent.canonical = ⟨some (String.ofList net.text), some ""⟩ ∧
      (rule.PassesThrough → sent.ipAddress = some rule.ipAddress) ∧
      (¬ rule.PassesThrough → sent.canonical = sent) := by
  obtain ⟨c, net, hencodes, rfl⟩ := expandRule_eq_ok_iff_encodes.mp h
  have hnet : Rule.Sends ⟨some c, some ""⟩ net := ⟨c, rfl, hencodes.parse?⟩
  refine ⟨net, hnet, hnet.canonical_eq, ?_, ?_⟩
  · rintro ⟨hmask, hslash⟩
    cases hencodes with
    | masked hmask' _ _ _ => exact absurd hmask hmask'
    | carried _ _ _ => rfl
    | single _ hslash' _ => exact absurd hslash hslash'
  · intro hown
    rw [hnet.canonical_eq, hencodes.eq_text hown]

/-- **The cycle from body to body is stable**, for the body of every document that is accepted with
one block. Once around, the networks are in canonical notation and nothing else has changed; after
that, nothing changes any more. -/
theorem cycle_of_decode {v : Value} {block : Block} (h : decode v = .ok [block]) :
    ∃ body flat again rules, expandFirst [block] = .ok body ∧
      Body.flattenOption (some body) = .ok flat ∧ decode (documents flat).ordered = .ok again ∧
      expandFirst again = .ok body.canonical ∧
      body.ipSecurityRestrictions = some rules ∧ rules.length = block.ipRestriction.length ∧
      (∀ (i : Nat) (rule : Restriction), block.ipRestriction[i]? = some rule →
        ∃ sent net, rules[i]? = some sent ∧ sent.Sends net ∧
          sent.canonical = ⟨some (String.ofList net.text), some ""⟩ ∧
          (rule.PassesThrough → sent.ipAddress = some rule.ipAddress) ∧
          (¬ rule.PassesThrough → sent.canonical = sent)) ∧
      body.canonical.cycle = .ok body.canonical := by
  rcases decode_cases h with hnil | ⟨_, one, hblock, hone, -⟩
  · cases hnil
  cases hblock
  obtain ⟨body, hbody⟩ := exists_expandFirst_eq_ok h
  obtain ⟨flat, again, hflat, hagain, hbody'⟩ := exists_cycle (valid_of_decodeOne hone) hbody
  have hstable : body.canonical.cycle = .ok body.canonical := by
    obtain ⟨flat', again', hflat', hagain', hbody''⟩ :=
      exists_cycle (valid_of_decodeOne hagain) hbody'
    rw [canonical_canonical hbody] at hbody''
    exact cycle_eq_ok hflat' hagain' hbody''
  obtain ⟨rules, mode, scm, ftps, tls, hrules, -, -, -, -, rfl⟩ := expand_eq_ok_iff.mp hbody
  obtain ⟨hlength, hsent⟩ := (Indexed.traverse_eq_ok_iff _ _ _).mp hrules
  refine ⟨_, [flat], [again], rules, hbody, Body.flattenOption_eq_ok hflat, ?_, hbody', rfl,
    hlength, fun i rule hrule => ?_, hstable⟩
  · rw [decode_documents_singleton, hagain]
    rfl
  · obtain ⟨sent, hi, hexpand⟩ := hsent i rule hrule
    obtain ⟨net, hnet⟩ := canonical_of_expandRule hexpand
    exact ⟨sent, net, hi, hnet⟩

/-- The body for the sample document, once around and once more. The second entry is sent as it is
written at first, and without the sign from then on. -/
theorem cycle_sampleDocument :
    ∃ body, expandFirst [sampleBlock] = .ok body ∧
      (body.ipSecurityRestrictions.getD [])[1]? = some ⟨some "192.168.0.0/+16", some ""⟩ ∧
      (body.canonical.ipSecurityRestrictions.getD [])[1]?
        = some ⟨some "192.168.0.0/16", some ""⟩ ∧
      body.canonical.cycle = .ok body.canonical := by
  obtain ⟨body, _, _, _, hbody, -, -, -, -, -, -, hstable⟩ :=
    cycle_of_decode decode_sampleDocument
  refine ⟨body, hbody, ?_, ?_, hstable⟩
  · cases hbody
    rfl
  · cases hbody
    rfl

end Block

end SiteConfig
