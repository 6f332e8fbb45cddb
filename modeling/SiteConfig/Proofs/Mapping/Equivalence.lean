import SiteConfig.Proofs.Block.Conformance
import SiteConfig.Proofs.Mapping.Reported
import SiteConfig.Proofs.Mapping.Sent

/-!
# Which texts are the same configuration

A field with a closed set of values has three case rules: which texts it accepts, which two texts
count as no change, and which value of the service a text stands for. Each is declared on its own.
This file says that they fit together: no change of value is hidden, and no change of spelling is
reported.

- `FieldSpec.Matches spec member s`: the text is a member of the closed set, under its case rule.
- `Schema.equivalent_iff_of_matches`: texts are the same configuration if their members are.
- `FieldSpec.TellsApart E spec`: the field tells two texts apart exactly if the enumeration does.
- `Scalar.equivalent_shown`: what is shown for a field after a round trip is what was supplied.
- `Schema.equivalence`: the main statement, for all fields, all texts and all documents.
-/

namespace SiteConfig

/-- The text is a member of the closed set of the field, under its case rule. -/
def FieldSpec.Matches (spec : FieldSpec) (member s : String) : Prop :=
  member = s ∨ (spec.ignoresCase = true ∧ Text.fold member = Text.fold s)

/-- Two texts that the field accepts are the same configuration exactly if they expand to the same
value of the enumeration, and each of them expands. -/
def FieldSpec.TellsApart (E : Type) [Vocabulary E] (spec : FieldSpec) : Prop :=
  ∀ (before after : Setting String) (a b : String), before.value? = some a →
    after.value? = some b → spec.accepts a = true → spec.accepts b = true →
    ∃ x y : Reported E, Block.expandEnum spec before = .ok x ∧
      Block.expandEnum spec after = .ok y ∧ (spec.equivalent a b = true ↔ x = y)

/-- Under the name of each field of texts, `shown` has the same configuration as `fields`, if this
has any. A blank enumeration counts as having none. -/
def Fields.SameTexts (shown fields : Fields) : Prop :=
  ∀ spec ∈ Schema.siteConfig, spec.kind = .string → ∀ s, fields.get? spec.name = some (.text s) →
    ¬ (s = "" ∧ spec ∈ Schema.enumerations) →
    ∃ t, shown.get? spec.name = some (.text t) ∧ spec.equivalent s t = true

/-! ## The closed sets -/

namespace Schema

/-- No two members of a closed set differ only in case. -/
theorem eq_of_sameUpToCase : ∀ spec ∈ siteConfig, ∀ m ∈ spec.allowed, ∀ n ∈ spec.allowed,
    Text.sameUpToCase m n = true → m = n := by
  decide +kernel

/-- Where case does not matter for membership, it does not matter for a change. -/
theorem suppressesCase_of_ignoresCase :
    ∀ spec ∈ siteConfig, spec.ignoresCase = true → spec.suppressesCase = true := by
  decide +kernel

end Schema

namespace FieldSpec

variable {spec : FieldSpec} {m n a b s : String}

theorem Matches.fold_eq (h : spec.Matches m a) : Text.fold m = Text.fold a := by
  rcases h with rfl | ⟨-, hfold⟩
  · rfl
  · exact hfold

theorem exists_matches_of_accepts (hclosed : spec.allowed ≠ []) (h : spec.accepts s = true) :
    ∃ m ∈ spec.allowed, spec.Matches m s :=
  (accepts_iff_allows.mp h).resolve_left hclosed

theorem equivalent_self (spec : FieldSpec) (s : String) : spec.equivalent s s = true := by
  unfold equivalent
  split
  · exact Text.sameUpToCase_refl s
  · exact beq_self_eq_true s

/-- **Texts are the same configuration exactly if they match the same member.** -/
theorem equivalent_iff_of_matches (hspec : spec ∈ Schema.siteConfig) (hm : m ∈ spec.allowed)
    (hn : n ∈ spec.allowed) (ha : spec.Matches m a) (hb : spec.Matches n b) :
    spec.equivalent a b = true ↔ m = n := by
  unfold equivalent
  by_cases hcase : spec.suppressesCase = true
  · rw [if_pos hcase, Text.sameUpToCase_iff, ← ha.fold_eq, ← hb.fold_eq]
    constructor
    · exact fun hfold =>
        Schema.eq_of_sameUpToCase spec hspec m hm n hn (Text.sameUpToCase_iff.mpr hfold)
    · rintro rfl
      rfl
  · -- A field that reports differences in case does not ignore them in its closed set either.
    have hexact : ∀ {m s : String}, spec.Matches m s → m = s := by
      rintro m s (heq | ⟨hignores, -⟩)
      · exact heq
      · exact absurd (Schema.suppressesCase_of_ignoresCase spec hspec hignores) hcase
    rw [if_neg hcase, beq_iff_eq, hexact ha, hexact hb]

theorem equivalent_iff_exists_member (hspec : spec ∈ Schema.siteConfig)
    (hclosed : spec.allowed ≠ []) (ha : spec.accepts a = true) (hb : spec.accepts b = true) :
    spec.equivalent a b = true ↔ ∃ m ∈ spec.allowed, spec.Matches m a ∧ spec.Matches m b := by
  obtain ⟨m, hm, hma⟩ := exists_matches_of_accepts hclosed ha
  obtain ⟨n, hn, hnb⟩ := exists_matches_of_accepts hclosed hb
  constructor
  · intro h
    cases (equivalent_iff_of_matches hspec hm hn hma hnb).mp h
    exact ⟨m, hm, hma, hnb⟩
  · rintro ⟨k, hk, hka, hkb⟩
    exact (equivalent_iff_of_matches hspec hk hk hka hkb).mpr rfl

/-! ## Enumerations -/

namespace Names

variable {E : Type} [Vocabulary E]

/-- A text that matches a member stands for the value that the member spells. -/
theorem exists_parse?_of_matches (hnames : spec.Names E) (hm : m ∈ spec.allowed)
    (h : spec.Matches m s) :
    ∃ e : E, Vocabulary.parse? s = some e ∧ Vocabulary.spelling e = m := by
  obtain ⟨e, he, hspell⟩ := Option.map_eq_some_iff.mp (hnames.spelled m hm).2
  have hsame : Text.sameUpToCase m s = true := Text.sameUpToCase_iff.mpr h.fold_eq
  exact ⟨e, (Vocabulary.parse?_congr hsame).symm.trans he, hspell⟩

theorem canonical_eq_of_matches (hnames : spec.Names E) (hm : m ∈ spec.allowed)
    (h : spec.Matches m s) : Vocabulary.canonical E s = m := by
  obtain ⟨e, he, hspell⟩ := hnames.exists_parse?_of_matches hm h
  rw [Vocabulary.canonical_of_parse? he, hspell]

theorem tellsApart (hnames : spec.Names E) (hspec : spec ∈ Schema.siteConfig) :
    spec.TellsApart E := by
  intro before after a b hbefore hafter ha hb
  obtain ⟨m, hm, hma⟩ := exists_matches_of_accepts hnames.closed ha
  obtain ⟨n, hn, hnb⟩ := exists_matches_of_accepts hnames.closed hb
  obtain ⟨e, he, rfl⟩ := hnames.exists_parse?_of_matches hm hma
  obtain ⟨f, hf, rfl⟩ := hnames.exists_parse?_of_matches hn hnb
  have hexpand : ∀ {setting : Setting String} {s : String} {e : E}, setting.value? = some s →
      Vocabulary.parse? s = some e → Block.expandEnum spec setting = .ok (.known e) :=
    fun hs he => Block.expandEnum_eq_ok_iff.mpr (.inr ⟨_, _, hs, he, rfl⟩)
  refine ⟨_, _, hexpand hbefore he, hexpand hafter hf, ?_⟩
  rw [equivalent_iff_of_matches hspec hm hn hma hnb, Reported.known.injEq]
  constructor
  · -- Values of one spelling are one value: it is what the spelling stands for.
    intro hspell
    have hparse : (Vocabulary.parse? a : Option E) = Vocabulary.parse? b := by
      refine Vocabulary.parse?_congr (Text.sameUpToCase_iff.mpr ?_)
      rw [← hma.fold_eq, hspell, hnb.fold_eq]
    exact Option.some.inj (he.symm.trans (hparse.trans hf))
  · rintro rfl
    rfl

/-- An accepted text and the canonical spelling of its canonical spelling are the same
configuration. -/
theorem equivalent_canonical (hnames : spec.Names E) (hspec : spec ∈ Schema.siteConfig)
    (h : spec.accepts s = true) :
    spec.equivalent s (Vocabulary.canonical E (Vocabulary.canonical E s)) = true := by
  obtain ⟨m, hm, hms⟩ := exists_matches_of_accepts hnames.closed h
  rw [hnames.canonical_eq_of_matches hm hms, hnames.canonical_eq_of_matches hm (.inl rfl)]
  exact (equivalent_iff_of_matches hspec hm hm hms (.inl rfl)).mpr rfl

end Names

end FieldSpec

/-! ## Around and back -/

namespace Scalar

/-- A field has the spellings of its enumeration if it is one, and else leaves its texts as they
are. -/
theorem spell_cases : ∀ scalar ∈ all,
    (scalar.spec ∉ Schema.enumerations ∧ scalar.spell = id) ∨
      (scalar.spec ∈ Schema.enumerations ∧ ∃ (E : Type) (_ : Vocabulary E),
        scalar.spec.Names E ∧ scalar.spell = Vocabulary.canonical E) := by
  intro scalar hscalar
  simp only [all, List.mem_cons, List.not_mem_nil, or_false] at hscalar
  rcases hscalar with rfl | rfl | rfl | rfl | rfl | rfl | rfl | rfl | rfl | rfl | rfl | rfl | rfl |
    rfl | rfl | rfl | rfl | rfl | rfl
  case inr.inr.inr.inr.inr.inr.inr.inl =>
    exact .inr ⟨by decide +kernel, _, _, Schema.managedPipelineMode_names, rfl⟩
  case inr.inr.inr.inr.inr.inr.inr.inr.inr.inr.inr.inr.inl =>
    exact .inr ⟨by decide +kernel, _, _, Schema.scmType_names, rfl⟩
  case inr.inr.inr.inr.inr.inr.inr.inr.inr.inr.inr.inr.inr.inr.inr.inl =>
    exact .inr ⟨by decide +kernel, _, _, Schema.ftpsState_names, rfl⟩
  case inr.inr.inr.inr.inr.inr.inr.inr.inr.inr.inr.inr.inr.inr.inr.inr.inr.inl =>
    exact .inr ⟨by decide +kernel, _, _, Schema.minTlsVersion_names, rfl⟩
  all_goals exact .inl ⟨by decide +kernel, rfl⟩

/-- What is shown for a field, once its text was sent, is the same configuration as the text. -/
theorem equivalent_shown {scalar : Scalar} (hscalar : scalar ∈ all) {fields sent : Fields}
    (hsent : sent.get? scalar.key = scalar.sent? fields) {s : String}
    (hget : fields.get? scalar.spec.name = some (.text s))
    (hblank : ¬ (s = "" ∧ scalar.spec ∈ Schema.enumerations))
    (hallows : scalar.spec.Allows s) :
    ∃ t, scalar.shown? sent = some (.text t) ∧ scalar.spec.equivalent s t = true := by
  have hspelled : sent.get? scalar.key = some (.text (scalar.spell s)) := by
    rw [hsent, sent?, FieldSpec.supplied?_of_get? hget Value.noConfusion
      fun hb => hblank ⟨Value.text.inj hb.1, hb.2⟩]
    rfl
  rw [shown?, hspelled]
  rcases spell_cases scalar hscalar with ⟨hplain, hid⟩ | ⟨henum, E, _, hnames, hcanonical⟩
  · rw [if_neg hplain, hid]
    exact ⟨s, rfl, scalar.spec.equivalent_self s⟩
  · rw [if_pos henum, hcanonical]
    refine ⟨_, rfl, ?_⟩
    exact hnames.equivalent_canonical (spec_mem_siteConfig scalar hscalar)
      (FieldSpec.accepts_iff_allows.mpr hallows)

end Scalar

namespace Body

/-- What is shown for a body is what would be shown for its document. -/
theorem get?_blockWith_written {body : Body} (h : body.IsNormal) (flats : List Restriction) :
    ∀ scalar ∈ Scalar.all,
      (body.blockWith flats).fields.get? scalar.spec.name = scalar.shown? body.fields := by
  -- For any payload first: matched against the body's own fields, the lemma would evaluate them.
  suffices hpayload : ∀ payload : Fields, payload = body.fields → ∀ scalar ∈ Scalar.all,
      (body.blockWith flats).fields.get? scalar.spec.name = scalar.shown? payload from
    hpayload _ rfl
  intro payload hpayload
  refine get?_blockWith_scalar fun slot => ?_
  rw [hpayload, get?_fields]
  exact takes_written h slot

end Body

namespace Block

/-- **Every text of a block comes back as the same configuration**, once the block was expanded and
the body flattened. -/
theorem exists_sameTexts {fields : Fields} {block : Block}
    (h : decodeOne (.object fields) = .ok block) :
    ∃ (body : Body) (flat : Block) (shown : Fields), expandFirst [block] = .ok body ∧
      Body.flattenOption (some body) = .ok [flat] ∧ flat.document = .object shown ∧
      shown.SameTexts fields := by
  obtain ⟨_, hobject, hconforms⟩ := exists_decodeOne_iff_conforms.mp ⟨block, h⟩
  cases hobject
  obtain ⟨_, hobject, -, hread⟩ := decodeOne_eq_ok_iff.mp h
  cases hobject
  obtain ⟨body, hexpand⟩ : ∃ body, block.expand = .ok body := by
    obtain ⟨_, _, _, _, _, -, hexpand, -⟩ := exists_expand_eq_ok (valid_of_decodeOne h)
    exact ⟨_, hexpand⟩
  obtain ⟨rules, mode, scm, ftps, tls, hrules, hmode, hscm, hftps, htls, hbody⟩ :=
    expand_eq_ok_iff.mp hexpand
  have hsent : ∀ scalar ∈ Scalar.all, body.fields.get? scalar.key = scalar.sent? fields :=
    hbody ▸ get?_scalar hread hmode hscm hftps htls
  have hlisted : body.ipSecurityRestrictions.getD [] = rules := by
    rw [hbody]
    rfl
  obtain ⟨flats, hflats, -⟩ := Body.exists_traverse_flattenRule (sends_of_traverse hrules)
  have hflat : Body.flattenOption (some body) = .ok [body.blockWith flats] :=
    Body.flattenOption_eq_ok_iff.mpr ⟨flats, hlisted ▸ hflats, rfl⟩
  have hfirst : expandFirst [block] = .ok body := hexpand
  have hshows := Body.get?_blockWith_written (allKnown_of_expandFirst hfirst).isNormal flats
  refine ⟨body, body.blockWith flats, (body.blockWith flats).fields, hfirst, hflat, rfl, ?_⟩
  intro spec hspec hkind s hget hblank
  obtain rfl | rfl | ⟨scalar, hscalar, rfl⟩ := Scalar.exists_of_mem_siteConfig hspec
  · cases hkind
  · cases hkind
  · have hallows : scalar.spec.Allows s := by
      cases hconforms.fits scalar.spec hspec _ hget Value.noConfusion with
      | text _ hs => exact hs.resolve_right hblank
    obtain ⟨t, hshown, hsame⟩ :=
      Scalar.equivalent_shown hscalar (hsent scalar hscalar) hget hblank hallows
    exact ⟨t, (hshows scalar hscalar).trans hshown, hsame⟩

end Block

/-! ## The statement -/

/-- **Which texts are the same configuration.** In a field with a closed set, two texts are if they
match the same member; in an enumeration this is so if they expand to the same value. And every text
of a document that is accepted comes back as the same configuration. -/
theorem Schema.equivalence :
    (∀ spec ∈ siteConfig, spec.allowed ≠ [] → ∀ a b,
      spec.accepts a = true → spec.accepts b = true →
      (spec.equivalent a b = true ↔
        ∃ m ∈ spec.allowed, spec.Matches m a ∧ spec.Matches m b)) ∧
    (managedPipelineMode.TellsApart PipelineMode ∧ scmType.TellsApart SourceControl ∧
      ftpsState.TellsApart FtpsState ∧ minTlsVersion.TellsApart TlsVersion) ∧
    ∀ v blocks, Block.decode v = .ok blocks →
      ∀ fields : Fields, v = .object fields ∨ v = .list [.object fields] →
        ∃ (body : Body) (flat : Block) (shown : Fields), Block.expandFirst blocks = .ok body ∧
          Body.flattenOption (some body) = .ok [flat] ∧ flat.document = .object shown ∧
          shown.SameTexts fields := by
  refine ⟨fun spec hspec hclosed a b => FieldSpec.equivalent_iff_exists_member hspec hclosed,
    ⟨?_, ?_, ?_, ?_⟩, ?_⟩
  · exact managedPipelineMode_names.tellsApart (by decide +kernel)
  · exact scmType_names.tellsApart (by decide +kernel)
  · exact ftpsState_names.tellsApart (by decide +kernel)
  · exact minTlsVersion_names.tellsApart (by decide +kernel)
  · intro v blocks hdecode fields hfields
    have hone : ∃ block, Block.decodeOne (.object fields) = .ok block ∧ [block] = blocks := by
      rcases hfields with rfl | rfl <;> exact Steps.map_eq_ok.mp hdecode
    obtain ⟨block, hone, rfl⟩ := hone
    exact Block.exists_sameTexts hone

/-- A text in another case comes back in its canonical one, which is the same configuration; to a
field that reports case it would be another one, and that is not accepted. -/
theorem Schema.equivalence_sampleDocument :
    (∃ (body : Body) (flat : Block) (shown : Fields) (t : String),
      Block.expandFirst [Block.sampleBlock] = .ok body ∧
      Body.flattenOption (some body) = .ok [flat] ∧ flat.document = .object shown ∧
      shown.get? "managed_pipeline_mode" = some (.text t) ∧
      managedPipelineMode.equivalent "INTEGRATED" t = true) ∧
    managedPipelineMode.equivalent "INTEGRATED" "Classic" = false := by
  obtain ⟨hmembers, -, hdocuments⟩ := equivalence
  obtain ⟨body, flat, shown, hbody, hflat, hshown, hsame⟩ :=
    hdocuments _ _ Block.decode_sampleDocument _ (.inl rfl)
  obtain ⟨t, ht, hequivalent⟩ := hsame managedPipelineMode (by decide +kernel) rfl "INTEGRATED" rfl
    (by decide +kernel)
  refine ⟨⟨body, flat, shown, t, hbody, hflat, hshown, ht, hequivalent⟩, ?_⟩
  have hiff := hmembers managedPipelineMode (by decide +kernel) (by decide) "INTEGRATED" "Classic"
    (by decide +kernel) (by decide +kernel)
  rw [Bool.eq_false_iff, ne_eq, hiff]
  unfold FieldSpec.Matches
  decide +kernel

end SiteConfig
