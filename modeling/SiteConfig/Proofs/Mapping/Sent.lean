import SiteConfig.Proofs.Block.Conformance
import SiteConfig.Proofs.Mapping.Keys

/-!
# What is sent for a document

A document is read, its block is expanded, and the body is written. This file says, key by key, what
is written for a document that is accepted, whatever fields it has, without a block or a body in
between: values pass under the key that the service has for them, in the spelling of the service, a
default stands for what is not supplied, and nothing else is sent.

- `Scalar.sent?`: what is sent for a field of one value.
- `Fields.SentFor sent fields`: the object `sent` is the body for the block of a document.
- `Block.sentFor_of_decode`: the main statement, for all blocks that are accepted.
-/

namespace SiteConfig

/-- What is sent for a field of one value: what the document supplies, in the spelling of the
service, or else the default of the schema. -/
def Scalar.sent? (scalar : Scalar) (fields : Fields) : Option Value :=
  ((scalar.spec.supplied? fields).map scalar.respelled).or (scalar.spec.preset.map Preset.value)

/-- The object is what is sent for the block of a document. -/
structure Fields.SentFor (sent fields : Fields) : Prop where
  nodup : sent.keys.Nodup
  scalars : ∀ scalar ∈ Scalar.all, sent.get? scalar.key = scalar.sent? fields
  defaultDocuments :
    sent.get? "defaultDocuments" = some (.list (fields.listed "default_documents"))
  /-- One access rule for each entry, in the order of the document. -/
  ipSecurityRestrictions : ∃ rules,
    sent.get? "ipSecurityRestrictions" = some (.list rules) ∧
      List.Forall₂ (fun entry rule => ∃ c, Restriction.Asks entry c ∧
        rule = .object [("ipAddress", .text c), ("subnetMask", .text "")])
        (fields.listed "ip_restriction") rules
  noOther : ∀ key ∈ sent.keys, key = "defaultDocuments" ∨ key = "ipSecurityRestrictions" ∨
    ∃ scalar ∈ Scalar.all, scalar.key = key

/-! ## Fields of one value -/

namespace FieldSpec.Names

variable {E : Type} [Vocabulary E] {spec : FieldSpec}

/-- An enumeration is written in the canonical spelling of its setting. Nothing is written for one
that is unset, and only for that: no field can hold the zero value, whose spelling is blank. -/
theorem writtenEnum_eq [DecidableEq E] (hnames : spec.Names E) {setting : Setting String}
    (hholds : spec.HoldsText setting) {x : Reported E}
    (hexpand : Block.expandEnum spec setting = .ok x) :
    Body.writtenEnum x = setting.value?.map fun t => .text (Vocabulary.canonical E t) := by
  rcases Block.expandEnum_eq_ok_iff.mp hexpand with ⟨hunset, rfl⟩ | ⟨t, e, ht, he, rfl⟩
  · rw [hunset, Body.writtenEnum, if_pos rfl]
    rfl
  · obtain ⟨e', he', hallowed⟩ := hnames.exists_parse? hholds ht
    cases he.symm.trans he'
    have hzero : (Reported.known e : Reported E) ≠ .zero := by
      intro heq
      cases heq
      exact (hnames.spelled _ hallowed).1 hnames.zero
    rw [ht, Body.writtenEnum, if_neg hzero, Option.map_some, Vocabulary.canonical_of_parse? he]
    rfl

/-- The default of an enumeration is in its canonical spelling. -/
theorem map_respelled_preset (hnames : spec.Names E)
    (hpreset : spec.preset.map Preset.value = spec.presetText?.map .text) (key : String) :
    (spec.preset.map Preset.value).map (Scalar.mk spec key (Vocabulary.canonical E)).respelled
      = spec.preset.map Preset.value := by
  rw [hpreset]
  cases hs : spec.presetText? with
  | none => rfl
  | some s =>
    have hspell : Vocabulary.canonical E s = s := by
      rw [Vocabulary.canonical_eq, (hnames.spelled s (hnames.preset s hs)).2]
      rfl
    exact congrArg (fun t => some (Value.text t)) hspell

end FieldSpec.Names

namespace Form

variable {form : Form} {spec : FieldSpec}

/-- A truth value is sent as it was read. -/
theorem map_value?_eq_sent?_of_flag (hspec : spec ∈ Schema.siteConfig) {setting : Setting Bool}
    (h : form.flag spec = .ok setting)
    (hpreset : spec.preset.map Preset.value = spec.presetBool?.map .bool) (key : String) :
    setting.value?.map .bool = (Scalar.mk spec key id).sent? form.fields := by
  rw [Scalar.sent?, Scalar.map_respelled_id]
  exact map_value?_of_flag hspec h hpreset

/-- A text is sent as it was read, unless it names a value of an enumeration. -/
theorem map_value?_eq_sent?_of_text (hspec : spec ∈ Schema.siteConfig) {setting : Setting String}
    (h : form.text spec = .ok setting)
    (hpreset : spec.preset.map Preset.value = spec.presetText?.map .text) (key : String) :
    setting.value?.map .text = (Scalar.mk spec key id).sent? form.fields := by
  rw [Scalar.sent?, Scalar.map_respelled_id]
  exact map_value?_of_text hspec h hpreset

/-- A value of an enumeration is sent in its canonical spelling. -/
theorem writtenEnum_eq_sent? {E : Type} [Vocabulary E] [DecidableEq E] (hnames : spec.Names E)
    (hspec : spec ∈ Schema.siteConfig) {setting : Setting String}
    (h : form.text spec = .ok setting)
    (hpreset : spec.preset.map Preset.value = spec.presetText?.map .text) {x : Reported E}
    (hexpand : Block.expandEnum spec setting = .ok x) (key : String) :
    Body.writtenEnum x = (Scalar.mk spec key (Vocabulary.canonical E)).sent? form.fields := by
  calc Body.writtenEnum x
      = (setting.value?.map .text).map
          (Scalar.mk spec key (Vocabulary.canonical E)).respelled := by
        rw [hnames.writtenEnum_eq (holdsText_of_text h) hexpand, Option.map_map]
        rfl
    _ = ((spec.supplied? form.fields).or (spec.preset.map Preset.value)).map
          (Scalar.mk spec key (Vocabulary.canonical E)).respelled := by
        rw [map_value?_of_text hspec h hpreset]
    _ = (Scalar.mk spec key (Vocabulary.canonical E)).sent? form.fields := by
        rw [Option.map_or, hnames.map_respelled_preset hpreset]
        rfl

end Form

/-! ## Lists -/

/-- A list of texts is read as its items. -/
theorem Indexed.map_text_of_traverse {path : Nat → String} {vs : List Value} {names : List String}
    (h : traverse (fun i v => Form.listedText (path i) v) vs = .ok names) :
    names.map .text = vs := by
  have hread : ∀ (i : Nat) (v : Value) (s : String),
      Form.listedText (path i) v = .ok s ↔ v = .text s := by
    intro i v s
    cases v <;> simp [Form.listedText]
  rw [traverse_eq_ok_iff_forall₂ (R := fun v s => v = .text s) hread] at h
  exact Value.map_text_of_forall₂ h

/-- What is sent for the entries of a document are the networks that they ask for. -/
theorem Block.forall₂_asks {entries : List Value} {path : Nat → String}
    {restrictions : List Restriction} {rules : List Rule}
    (hread : Indexed.traverse (fun i entry => Restriction.decode (path i) entry) entries
      = .ok restrictions)
    (hsent : Indexed.traverse expandRule restrictions = .ok rules) :
    List.Forall₂ (fun entry rule => ∃ c, Restriction.Asks entry c ∧ rule = ⟨some c, some ""⟩)
      entries rules := by
  obtain ⟨hlen, hread⟩ := (Indexed.traverse_eq_ok_iff _ _ _).mp hread
  obtain ⟨hlen', hsent⟩ := (Indexed.traverse_eq_ok_iff _ _ _).mp hsent
  rw [List.forall₂_iff_get]
  refine ⟨(hlen'.trans hlen).symm, fun i hi hi' => ?_⟩
  obtain ⟨rule, hrule, hdecode⟩ := hread i _ (List.getElem?_eq_getElem hi)
  obtain ⟨sent, hget, hexpand⟩ := hsent i rule hrule
  obtain ⟨c, hc, rfl⟩ := expandRule_eq_ok_iff.mp hexpand
  exact ⟨c, Restriction.exists_decode_cidr_iff.mp ⟨rule, hdecode, hc⟩,
    (List.getElem_eq_iff hi').mpr hget⟩

/-! ## Blocks -/

namespace Block

variable {form : Form} {block : Block} {rules : List Rule} {mode : Reported PipelineMode}
  {scm : Reported SourceControl} {ftps : Reported FtpsState} {tls : Reported TlsVersion}

/-- Each field of one value is sent as the document has it. -/
theorem get?_scalar (hread : ReadFrom form block)
    (hmode : expandEnum Schema.managedPipelineMode block.managedPipelineMode = .ok mode)
    (hscm : expandEnum Schema.scmType block.scmType = .ok scm)
    (hftps : expandEnum Schema.ftpsState block.ftpsState = .ok ftps)
    (htls : expandEnum Schema.minTlsVersion block.minTlsVersion = .ok tls) :
    ∀ scalar ∈ Scalar.all,
      (block.bodyWith rules mode scm ftps tls).fields.get? scalar.key
        = scalar.sent? form.fields := by
  intro scalar hscalar
  have hspec : scalar.spec ∈ Schema.siteConfig := Scalar.spec_mem_siteConfig scalar hscalar
  have hget : ∀ s : Body.Slot, (block.bodyWith rules mode scm ftps tls).fields.get? s.key
      = (block.bodyWith rules mode scm ftps tls).written s := Body.get?_fields _
  -- One case for each field: the slot it is written to, and the reader that it was read with.
  simp only [Scalar.all, List.mem_cons, List.not_mem_nil, or_false] at hscalar
  rcases hscalar with rfl | rfl | rfl | rfl | rfl | rfl | rfl | rfl | rfl | rfl | rfl | rfl | rfl |
    rfl | rfl | rfl | rfl | rfl | rfl
  · exact (hget .alwaysOn).trans (Form.map_value?_eq_sent?_of_flag hspec hread.alwaysOn rfl _)
  · exact (hget .netFrameworkVersion).trans
      (Form.map_value?_eq_sent?_of_text hspec hread.dotnetFrameworkVersion rfl _)
  · exact (hget .http20Enabled).trans
      (Form.map_value?_eq_sent?_of_flag hspec hread.http2Enabled rfl _)
  · exact (hget .javaVersion).trans
      (Form.map_value?_eq_sent?_of_text hspec hread.javaVersion rfl _)
  · exact (hget .javaContainer).trans
      (Form.map_value?_eq_sent?_of_text hspec hread.javaContainer rfl _)
  · exact (hget .javaContainerVersion).trans
      (Form.map_value?_eq_sent?_of_text hspec hread.javaContainerVersion rfl _)
  · exact (hget .localMySqlEnabled).trans
      (Form.map_value?_eq_sent?_of_flag hspec hread.localMysqlEnabled rfl _)
  · exact (hget .managedPipelineMode).trans (Form.writtenEnum_eq_sent?
      Schema.managedPipelineMode_names hspec hread.managedPipelineMode rfl hmode _)
  · exact (hget .phpVersion).trans (Form.map_value?_eq_sent?_of_text hspec hread.phpVersion rfl _)
  · exact (hget .pythonVersion).trans
      (Form.map_value?_eq_sent?_of_text hspec hread.pythonVersion rfl _)
  · exact (hget .remoteDebuggingEnabled).trans
      (Form.map_value?_eq_sent?_of_flag hspec hread.remoteDebuggingEnabled rfl _)
  · exact (hget .remoteDebuggingVersion).trans
      (Form.map_value?_eq_sent?_of_text hspec hread.remoteDebuggingVersion rfl _)
  · exact (hget .scmType).trans (Form.writtenEnum_eq_sent?
      Schema.scmType_names hspec hread.scmType rfl hscm _)
  · exact (hget .use32BitWorkerProcess).trans
      (Form.map_value?_eq_sent?_of_flag hspec hread.use32BitWorkerProcess rfl _)
  · exact (hget .webSocketsEnabled).trans
      (Form.map_value?_eq_sent?_of_flag hspec hread.websocketsEnabled rfl _)
  · exact (hget .ftpsState).trans (Form.writtenEnum_eq_sent?
      Schema.ftpsState_names hspec hread.ftpsState rfl hftps _)
  · exact (hget .linuxFxVersion).trans
      (Form.map_value?_eq_sent?_of_text hspec hread.linuxFxVersion rfl _)
  · exact (hget .minTlsVersion).trans (Form.writtenEnum_eq_sent?
      Schema.minTlsVersion_names hspec hread.minTlsVersion rfl htls _)
  · exact (hget .vnetName).trans
      (Form.map_value?_eq_sent?_of_text hspec hread.virtualNetworkName rfl _)

/-- **What is sent for a block that is accepted**: under its own key in the body, each value that
the document supplies or that the schema has as its default; the two lists; and nothing else. -/
theorem sentFor_of_decode {fields : Fields} {blocks : List Block}
    (h : decode (.object fields) = .ok blocks) :
    ∃ (body : Body) (sent : Fields), expandFirst blocks = .ok body ∧
      body.document = .object sent ∧ sent.SentFor fields := by
  obtain ⟨block, hone, rfl⟩ := Steps.map_eq_ok.mp h
  obtain ⟨_, hobject, -, hread⟩ := decodeOne_eq_ok_iff.mp hone
  cases hobject
  obtain ⟨body, hexpand⟩ := exists_expandFirst_eq_ok h
  obtain ⟨rules, mode, scm, ftps, tls, hrules, hmode, hscm, hftps, htls, rfl⟩ :=
    expand_eq_ok_iff.mp hexpand
  have hnames : block.defaultDocuments.map .text = fields.listed "default_documents" :=
    Indexed.map_text_of_traverse (Form.traverse_listed hread.defaultDocuments)
  refine ⟨_, _, hexpand, rfl, ?_⟩
  constructor
  case nodup => exact Body.keys_fields_nodup _
  case scalars => exact get?_scalar hread hmode hscm hftps htls
  case defaultDocuments =>
    refine (Body.get?_fields _ .defaultDocuments).trans ?_
    exact congrArg (fun vs => some (Value.list vs)) hnames
  case ipSecurityRestrictions =>
    have hasks := forall₂_asks (Form.traverse_listed hread.ipRestriction) hrules
    refine ⟨_, Body.get?_fields _ .ipSecurityRestrictions, List.forall₂_map_right_iff.mpr ?_⟩
    exact hasks.imp fun _ _ ⟨c, hc, hrule⟩ => ⟨c, hc, congrArg Rule.document hrule⟩
  case noOther =>
    intro key hkey
    obtain ⟨s, rfl⟩ := Body.exists_slot_of_mem_keys hkey
    exact s.exists_scalar

/-- The text in another case is sent in the spelling of the service, and for the blank one the
default is. -/
theorem sentFor_sampleDocument :
    ∃ (body : Body) (sent : Fields), expandFirst [sampleBlock] = .ok body ∧
      body.document = .object sent ∧
      sent.get? "managedPipelineMode" = some (.text "Integrated") ∧
      sent.get? "scmType" = some (.text "None") ∧ sent.get? "ftpsState" = none := by
  obtain ⟨body, sent, hbody, hsent, hfor⟩ := sentFor_of_decode decode_sampleDocument
  have hget : ∀ (i : Nat) (scalar : Scalar), Scalar.all[i]? = some scalar →
      sent.get? scalar.key = scalar.sent? _ :=
    fun i scalar hi => hfor.scalars scalar (List.mem_of_getElem? hi)
  exact ⟨body, sent, hbody, hsent, (hget 7 _ rfl).trans (by decide +kernel),
    (hget 12 _ rfl).trans (by decide +kernel), (hget 15 _ rfl).trans (by decide +kernel)⟩

end Block

end SiteConfig
