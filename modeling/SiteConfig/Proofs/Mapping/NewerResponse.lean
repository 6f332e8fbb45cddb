import SiteConfig.Proofs.Body.Written
import SiteConfig.Proofs.Mapping.Reported

/-!
# Responses of a newer service

A newer service sends keys that are not known here, in a body and in its access rules, and values of
the enumerations that no vocabulary has yet. This file compares two readings, of a payload and of
the same payload as a newer service sends it: the second succeeds exactly if the first does, and the
two bodies differ in the enumerations that were sent another text, and in nothing else.

- `Fields.RevisedTo old new`: the payload `new` is `old` as a newer service sends it.
- `Reported.Follows v? x`: what an enumeration says, for the value that the payload has for it.
- `Body.read_of_revisedTo`: the main statement, for all payloads.
-/

namespace SiteConfig

/-! ## What a newer service sends -/

/-- The slots of the enumerations. -/
def Body.Slot.enumerations : List Slot :=
  [.managedPipelineMode, .scmType, .ftpsState, .minTlsVersion]

/-- What an enumeration can be sent as: a text, `null`, or not at all. -/
def Value.IsOptionalText (v? : Option Value) : Prop :=
  v? = none ∨ v? = some .null ∨ ∃ s, v? = some (.text s)

/-- The entry of an access rule as a newer service sends it: with any keys that are not of a rule,
if it is an object. -/
inductive Rule.EntryRevisedTo : Value → Value → Prop
  | same (entry : Value) : EntryRevisedTo entry entry
  | object {old new : Fields} (hip : new.get? "ipAddress" = old.get? "ipAddress")
      (hmask : new.get? "subnetMask" = old.get? "subnetMask") :
      EntryRevisedTo (.object old) (.object new)

/-- The payload as a newer service sends it. Each enumeration can have another text, and each access
rule other keys; under keys that are not of a slot there can be anything in either. -/
structure Fields.RevisedTo (old new : Fields) : Prop where
  plain : ∀ slot : Body.Slot, slot ∉ Body.Slot.enumerations → slot ≠ .ipSecurityRestrictions →
    new.get? slot.key = old.get? slot.key
  enumeration : ∀ slot ∈ Body.Slot.enumerations, new.get? slot.key = old.get? slot.key ∨
    (Value.IsOptionalText (old.get? slot.key) ∧ Value.IsOptionalText (new.get? slot.key))
  ipSecurityRestrictions :
    new.get? "ipSecurityRestrictions" = old.get? "ipSecurityRestrictions" ∨
      ∃ before after, old.get? "ipSecurityRestrictions" = some (.list before) ∧
        new.get? "ipSecurityRestrictions" = some (.list after) ∧
        List.Forall₂ Rule.EntryRevisedTo before after

/-- What an enumeration says for the value that the payload has for it: the value of its vocabulary
that a text spells, in whatever case, and else the text as it is. -/
structure Reported.Follows {E : Type} [Vocabulary E] (v? : Option Value) (x : Reported E) :
    Prop where
  known_iff : ∀ s, v? = some (.text s) → ∀ e, x = .known e ↔
    Text.sameUpToCase (Vocabulary.spelling e) s = true
  other_iff : ∀ s, v? = some (.text s) → ∀ t, x = .other t ↔
    t = s ∧ ∀ e : E, Text.sameUpToCase (Vocabulary.spelling e) s = false
  text_of_known : ∀ s, v? = some (.text s) → ∀ e : E,
    Text.sameUpToCase (Vocabulary.spelling e) s = true → x.text = Vocabulary.spelling e
  text_of_other : ∀ s, v? = some (.text s) →
    (∀ e : E, Text.sameUpToCase (Vocabulary.spelling e) s = false) → x.text = s
  zero : v? = none ∨ v? = some .null → x = .zero ∧ x.text = ""

/-- Each enumeration of the body says what the payload has for it. -/
structure Body.Follows (body : Body) (payload : Fields) : Prop where
  managedPipelineMode : body.managedPipelineMode.Follows (payload.get? "managedPipelineMode")
  scmType : body.scmType.Follows (payload.get? "scmType")
  ftpsState : body.ftpsState.Follows (payload.get? "ftpsState")
  minTlsVersion : body.minTlsVersion.Follows (payload.get? "minTlsVersion")

/-- The block shows each enumeration of the body by its text. -/
structure Block.ShowsEnumerations (block : Block) (body : Body) : Prop where
  managedPipelineMode : block.managedPipelineMode = .given body.managedPipelineMode.text
  scmType : block.scmType = .given body.scmType.text
  ftpsState : block.ftpsState = .given body.ftpsState.text
  minTlsVersion : block.minTlsVersion = .given body.minTlsVersion.text

namespace Rule.EntryRevisedTo

theorem symm {old new : Value} (h : EntryRevisedTo old new) : EntryRevisedTo new old := by
  cases h with
  | same => exact .same _
  | object hip hmask => exact .object hip.symm hmask.symm

/-- The entry is the same access rule. -/
theorem readRule {old new : Value} (h : EntryRevisedTo old new) (hold : old.KeysOnce)
    (hnew : new.KeysOnce) {rule : Rule} (hread : Body.readRule old = .ok rule) :
    Body.readRule new = .ok rule := by
  cases h with
  | same => exact hread
  | object hip hmask =>
    refine (layout.readFields_eq_ok_iff hnew.nodup).mpr fun slot => ?_
    have htakes := (layout.readFields_eq_ok_iff hold.nodup).mp hread slot
    cases slot with
    | ipAddress => exact hip ▸ htakes
    | subnetMask => exact hmask ▸ htakes

/-- The entries are the same access rules, one by one. -/
theorem readList {before after : List Value} (h : List.Forall₂ EntryRevisedTo before after)
    (hbefore : ∀ v ∈ before, v.KeysOnce) (hafter : ∀ v ∈ after, v.KeysOnce) {rules : List Rule}
    (hread : Body.readList Body.readRule before = .ok rules) :
    Body.readList Body.readRule after = .ok rules := by
  rw [Body.readList_eq_ok_iff] at hread ⊢
  induction h generalizing rules with
  | nil => exact hread
  | cons hentry _ ih =>
    cases hread with
    | cons hrule hrules =>
      obtain ⟨hold, hbefore⟩ := List.forall_mem_cons.mp hbefore
      obtain ⟨hnew, hafter⟩ := List.forall_mem_cons.mp hafter
      exact .cons (hentry.readRule hold hnew hrule) (ih hbefore hafter hrules)

end Rule.EntryRevisedTo

namespace Fields.RevisedTo

variable {old new : Fields}

theorem symm (h : old.RevisedTo new) : new.RevisedTo old where
  plain slot henum hrules := (h.plain slot henum hrules).symm
  enumeration slot henum := (h.enumeration slot henum).imp Eq.symm And.symm
  ipSecurityRestrictions := by
    rcases h.ipSecurityRestrictions with hsame | ⟨before, after, hold, hnew, hentries⟩
    · exact .inl hsame.symm
    · exact .inr ⟨after, before, hnew, hold, (hentries.imp fun _ _ => .symm).flip⟩

/-- **What is not revised is taken as before.** -/
theorem takes_of_same (h : old.RevisedTo new) (hold : (Value.object old).KeysOnce)
    (hnew : (Value.object new).KeysOnce) {slot : Body.Slot}
    (hsame : slot ∉ Body.Slot.enumerations ∨ new.get? slot.key = old.get? slot.key)
    {start c : slot.Content} (htakes : Body.Takes slot.read (old.get? slot.key) start c) :
    Body.Takes slot.read (new.get? slot.key) start c := by
  rcases hsame with hplain | hsame
  · by_cases hslot : slot = .ipSecurityRestrictions
    · subst hslot
      have hget := h.ipSecurityRestrictions
      simp only [Body.Slot.key] at htakes ⊢
      rcases hget with hsame | ⟨before, after, hbefore, hafter, hentries⟩
      · exact hsame ▸ htakes
      · rw [hbefore] at htakes
        rw [hafter]
        obtain ⟨rules, hrules, rfl⟩ := Steps.map_eq_ok.mp htakes
        have hread : Body.readList Body.readRule after = .ok rules :=
          Rule.EntryRevisedTo.readList hentries (fun v hv => (hold.of_get? hbefore).of_mem hv)
            (fun v hv => (hnew.of_get? hafter).of_mem hv) hrules
        exact Steps.map_eq_ok.mpr ⟨rules, hread, rfl⟩
    · exact (h.plain slot hplain hslot).symm ▸ htakes
  · exact hsame.symm ▸ htakes

end Fields.RevisedTo

namespace Value.IsOptionalText

/-- An enumeration can be read from any text. -/
theorem exists_takes {E : Type} [Vocabulary E] {v? : Option Value} (h : IsOptionalText v?)
    (start : Reported E) : ∃ x, Body.Takes (Body.Slot.readEnum E) v? start x := by
  rcases h with rfl | rfl | ⟨s, rfl⟩
  · exact ⟨start, rfl⟩
  · exact ⟨.zero, rfl⟩
  · exact ⟨.read s, rfl⟩

end Value.IsOptionalText

namespace Body

theorem exists_takes_zero {slot : Slot} (henum : slot ∈ Slot.enumerations) {v? : Option Value}
    (h : Value.IsOptionalText v?) : ∃ c, Takes slot.read v? (slot.get {}) c := by
  simp only [Slot.enumerations, List.mem_cons, List.not_mem_nil, or_false] at henum
  rcases henum with rfl | rfl | rfl | rfl
  · exact h.exists_takes (E := PipelineMode) .zero
  · exact h.exists_takes (E := SourceControl) .zero
  · exact h.exists_takes (E := FtpsState) .zero
  · exact h.exists_takes (E := TlsVersion) .zero

/-- A payload that is an object is read as a body that is there. -/
theorem read_object_eq_ok_iff {payload : Fields} {body : Body} :
    read (.object payload) = .ok (some body) ↔ readFields readField {} payload = .ok body := by
  simp only [read, readOne, readRecord, Steps.map_eq_ok, Option.some.injEq, exists_eq_right]

/-- It is read slot by slot. -/
theorem takes_of_read {payload : Fields} (hkeys : (Value.object payload).KeysOnce) {body : Body}
    (h : read (.object payload) = .ok (some body)) :
    ∀ s : Slot, Takes s.read (payload.get? s.key) (s.get {}) (s.get body) :=
  (layout.readFields_eq_ok_iff hkeys.nodup).mp (read_object_eq_ok_iff.mp h)

/-- A revised payload can be read if the payload can. -/
theorem exists_read_of_revisedTo {old new : Fields} (hold : (Value.object old).KeysOnce)
    (hnew : (Value.object new).KeysOnce) (h : old.RevisedTo new) {before : Body}
    (hread : read (.object old) = .ok (some before)) :
    ∃ after, read (.object new) = .ok (some after) := by
  have hbefore := takes_of_read hold hread
  have hslots : ∃ after, readFields layout.step {} new = .ok after := by
    refine (layout.exists_readFields_iff Slot.mem_all hnew.nodup).mpr fun slot => ?_
    by_cases henum : slot ∈ Slot.enumerations
    · rcases h.enumeration slot henum with hsame | ⟨-, hafter⟩
      · exact ⟨_, h.takes_of_same hold hnew (.inr hsame) (hbefore slot)⟩
      · exact exists_takes_zero henum hafter
    · exact ⟨_, h.takes_of_same hold hnew (.inl henum) (hbefore slot)⟩
  obtain ⟨after, hafter⟩ := hslots
  exact ⟨after, read_object_eq_ok_iff.mpr hafter⟩

end Body

/-! ## Enumerations -/

namespace Reported

variable {E : Type} [Vocabulary E] [Vocabulary.Lawful E] {s : String}

/-- A text is read as the value that it spells. -/
theorem read_eq_known_iff {e : E} :
    read s = .known e ↔ Text.sameUpToCase (Vocabulary.spelling e) s = true := by
  have hparse : read s = .known e ↔ Vocabulary.parse? s = some e := by
    unfold read
    cases hparse : (Vocabulary.parse? s : Option E) with
    | none => simp
    | some f => simp
  rw [hparse]
  constructor
  · exact Vocabulary.sameUpToCase_of_parse?
  · intro hsame
    exact (Vocabulary.parse?_congr hsame).symm.trans (Vocabulary.Lawful.parse?_spelling e)

/-- A text that spells no value is read as it is. -/
theorem read_eq_other_iff {t : String} :
    (read s : Reported E) = .other t ↔
      t = s ∧ ∀ e : E, Text.sameUpToCase (Vocabulary.spelling e) s = false := by
  constructor
  · intro h
    have hspells : ∀ e : E, Text.sameUpToCase (Vocabulary.spelling e) s = false := by
      intro e
      rw [Bool.eq_false_iff, ne_eq, ← read_eq_known_iff, h]
      intro heq
      cases heq
    refine ⟨?_, hspells⟩
    unfold read at h
    split at h
    · cases h
    · exact (Reported.other.inj h).symm
  · rintro ⟨rfl, hspells⟩
    unfold read
    cases hparse : (Vocabulary.parse? t : Option E) with
    | none => rfl
    | some e =>
      have hsame := Vocabulary.sameUpToCase_of_parse? hparse
      rw [hspells e] at hsame
      cases hsame

/-- **An enumeration says what the payload has for it.** -/
theorem follows_of_takes (hzero : Vocabulary.spelling (Vocabulary.zero : E) = "")
    {v? : Option Value} {x : Reported E} (h : Body.Takes (Body.Slot.readEnum E) v? .zero x) :
    x.Follows v? := by
  have hread : ∀ s, v? = some (.text s) → x = read s := by
    rintro s rfl
    exact (Except.ok.inj h).symm
  constructor
  case known_iff =>
    intro s hs e
    rw [hread s hs]
    exact read_eq_known_iff
  case other_iff =>
    intro s hs t
    rw [hread s hs]
    exact read_eq_other_iff
  case text_of_known =>
    intro s hs e hsame
    rw [hread s hs, read_eq_known_iff.mpr hsame]
    rfl
  case text_of_other =>
    intro s hs hspells
    rw [hread s hs, read_eq_other_iff.mpr ⟨rfl, hspells⟩]
    rfl
  case zero =>
    have hx : v? = none ∨ v? = some .null → x = .zero := by
      rintro (rfl | rfl)
      · exact h
      · exact (Except.ok.inj h).symm
    exact fun hnone => ⟨hx hnone, (congrArg text (hx hnone)).trans hzero⟩

end Reported

namespace Body

theorem follows_of_read {payload : Fields} (hkeys : (Value.object payload).KeysOnce) {body : Body}
    (h : read (.object payload) = .ok (some body)) : body.Follows payload where
  managedPipelineMode :=
    Reported.follows_of_takes rfl (takes_of_read hkeys h .managedPipelineMode)
  scmType := Reported.follows_of_takes rfl (takes_of_read hkeys h .scmType)
  ftpsState := Reported.follows_of_takes rfl (takes_of_read hkeys h .ftpsState)
  minTlsVersion := Reported.follows_of_takes rfl (takes_of_read hkeys h .minTlsVersion)

theorem showsEnumerations_of_flattenOption {body : Body} {blocks : List Block}
    (h : flattenOption (some body) = .ok blocks) :
    ∃ block, blocks = [block] ∧ block.ShowsEnumerations body := by
  obtain ⟨flats, -, rfl⟩ := flattenOption_eq_ok_iff.mp h
  exact ⟨_, rfl, rfl, rfl, rfl, rfl⟩

/-- Only the access rules decide whether a body flattens. -/
theorem exists_flattenOption_congr {body other : Body}
    (h : body.ipSecurityRestrictions = other.ipSecurityRestrictions) :
    (∃ blocks, flattenOption (some body) = .ok blocks) ↔
      ∃ blocks, flattenOption (some other) = .ok blocks := by
  rw [exists_flattenOption_iff, exists_flattenOption_iff]
  simp only [Option.mem_def, Option.some.injEq, forall_eq', ReadsNetworks, h]

/-- **The response of a newer service can be read.** With other keys, and with other texts for its
enumerations, a payload is read exactly if it was before, and as the same body but for the
enumerations that have another text. Each of them says what its text does, and is shown so. -/
theorem read_of_revisedTo {old new : Fields} (hold : (Value.object old).KeysOnce)
    (hnew : (Value.object new).KeysOnce) (h : old.RevisedTo new) :
    ((∃ after, read (.object new) = .ok (some after)) ↔
      ∃ before, read (.object old) = .ok (some before)) ∧
    ∀ before after, read (.object old) = .ok (some before) →
      read (.object new) = .ok (some after) →
        (∀ slot : Slot, slot ∉ Slot.enumerations ∨ new.get? slot.key = old.get? slot.key →
          slot.get after = slot.get before) ∧
        after.Follows new ∧
        ((∃ blocks, flattenOption (some after) = .ok blocks) ↔
          ∃ blocks, flattenOption (some before) = .ok blocks) ∧
        ∀ blocks, flattenOption (some after) = .ok blocks →
          ∃ block, blocks = [block] ∧ block.ShowsEnumerations after := by
  refine ⟨⟨?_, ?_⟩, fun before after hbefore hafter => ?_⟩
  · rintro ⟨after, hafter⟩
    exact exists_read_of_revisedTo hnew hold h.symm hafter
  · rintro ⟨before, hbefore⟩
    exact exists_read_of_revisedTo hold hnew h hbefore
  · have hslots : ∀ slot : Slot, slot ∉ Slot.enumerations ∨
        new.get? slot.key = old.get? slot.key → slot.get after = slot.get before := by
      intro slot hsame
      have htakes := h.takes_of_same hold hnew hsame (takes_of_read hold hbefore slot)
      exact (takes_of_read hnew hafter slot).unique htakes
    refine ⟨hslots, follows_of_read hnew hafter, ?_, fun blocks => ?_⟩
    · exact exists_flattenOption_congr (hslots .ipSecurityRestrictions (.inl (by decide)))
    · exact showsEnumerations_of_flattenOption

/-- The sample payload from a newer service, with keys and a value that are not known here. -/
def sampleNewerPayload : Fields :=
  [("alwaysOn", .null), ("ftpsState", .text "SftpOnly"), ("healthCheckPath", .text "/ping"),
    ("ipSecurityRestrictions",
      .list [.object [("ipAddress", .text "10.0.0.0/24"), ("priority", .int 100)],
        .list [.text "10.0.0.1"]]),
    ("minTlsVersion", .null), ("phpVersion", .text "")]

theorem keysOnce_sampleNewerPayload : (Value.object sampleNewerPayload).KeysOnce := by
  have hordered : (Value.object sampleNewerPayload).ordered = .object sampleNewerPayload := by
    decide +kernel
  exact hordered ▸ Value.keysOnce_ordered _

theorem revisedTo_samplePayload : samplePayload.RevisedTo sampleNewerPayload where
  plain slot hplain hrules := by
    cases slot with
    | ipSecurityRestrictions => exact absurd rfl hrules
    | managedPipelineMode | scmType | ftpsState | minTlsVersion =>
      exact absurd (by decide) hplain
    | _ => rfl
  enumeration slot henum := by
    simp only [Slot.enumerations, List.mem_cons, List.not_mem_nil, or_false] at henum
    rcases henum with rfl | rfl | rfl | rfl
    · exact .inl rfl
    · exact .inl rfl
    · exact .inr ⟨.inr (.inr ⟨"ftpsonly", rfl⟩), .inr (.inr ⟨"SftpOnly", rfl⟩)⟩
    · exact .inr ⟨.inr (.inr ⟨"1.3", rfl⟩), .inr (.inl rfl)⟩
  ipSecurityRestrictions :=
    .inr ⟨_, _, rfl, rfl, .cons (.object rfl rfl) (.cons (.same _) .nil)⟩

/-- The value that is not known is shown as it is, and nothing else stands in the way. -/
theorem read_sampleNewerPayload :
    ∃ (after : Body) (block : Block), read (.object sampleNewerPayload) = .ok (some after) ∧
      after.ftpsState = .other "SftpOnly" ∧ flattenOption (some after) = .ok [block] ∧
      block.ftpsState = .given "SftpOnly" ∧ block.minTlsVersion = .given "" := by
  obtain ⟨hread, hresult⟩ := read_of_revisedTo keysOnce_samplePayload keysOnce_sampleNewerPayload
    revisedTo_samplePayload
  obtain ⟨before, blocks, hbefore, hflat⟩ : ∃ before blocks,
      read (.object samplePayload) = .ok (some before) ∧
        flattenOption (some before) = .ok blocks :=
    ⟨_, _, rfl, rfl⟩
  obtain ⟨after, hafter⟩ := hread.mpr ⟨before, hbefore⟩
  obtain ⟨-, hfollows, hflattens, hshows⟩ := hresult before after hbefore hafter
  obtain ⟨blocks, hblocks⟩ := hflattens.mpr ⟨blocks, hflat⟩
  obtain ⟨block, rfl, hblock⟩ := hshows blocks hblocks
  have hspells : ∀ e : FtpsState,
      Text.sameUpToCase (Vocabulary.spelling e) "SftpOnly" = false := by
    intro e
    cases e <;> decide +kernel
  have hother : after.ftpsState = .other "SftpOnly" :=
    (hfollows.ftpsState.other_iff _ rfl _).mpr ⟨rfl, hspells⟩
  refine ⟨after, block, hafter, hother, hblocks, ?_, ?_⟩
  · rw [hblock.ftpsState, hfollows.ftpsState.text_of_other _ rfl hspells]
  · rw [hblock.minTlsVersion, (hfollows.minTlsVersion.zero (.inr rfl)).2]

end Body

end SiteConfig
