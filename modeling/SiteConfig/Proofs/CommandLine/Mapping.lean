import SiteConfig.CommandLine.Run
import SiteConfig.Proofs.Block.Faults
import SiteConfig.Proofs.Mapping.Flattening
import SiteConfig.Proofs.Rendering

/-!
# What the mapping commands leave behind

Scripts go by the exit code. For each document that can be loaded, this file says what the two
commands do with it, whatever the format of the output and however much of it is wanted: what
decides between success and failure is said of the document alone, and the exit code says which it
was.

- `HoldsConfiguration document v`, `HoldsPayload document payload`: what the commands look at.
- `ExpandOutcome`, `FlattenOutcome`: what they leave behind.
- `Invocation.outcome_of_load`: the main statement, for all documents and all invocations.

Nothing is assumed of rendering: what the commands give has a text in every format.
-/

namespace SiteConfig.CommandLine

/-! ## What the commands look at -/

/-- The configuration that a document holds: what is under `site_config`, `null` if nothing is. -/
inductive HoldsConfiguration : Value → Value → Prop
  | null : HoldsConfiguration .null .null
  | absent {fields : Fields} (h : fields.get? "site_config" = none) :
      HoldsConfiguration (.object fields) .null
  | present {fields : Fields} {v : Value} (h : fields.get? "site_config" = some v) :
      HoldsConfiguration (.object fields) v

/-- The payload that a document holds: the properties of a resource, or else the document. -/
inductive HoldsPayload : Value → Value → Prop
  | wrapped {fields properties : Fields}
      (h : fields.get? "properties" = some (.object properties)) :
      HoldsPayload (.object fields) (.object properties)
  | bare {document : Value}
      (h : ∀ fields properties : Fields, document = .object fields →
        fields.get? "properties" ≠ some (.object properties)) : HoldsPayload document document

theorem holdsConfiguration_iff {document v : Value} :
    HoldsConfiguration document v ↔ configurationOf document = .ok v := by
  constructor
  · intro h
    cases h with
    | null => rfl
    | absent h =>
      show Except.ok ((Fields.get? _ "site_config").getD .null) = _
      rw [h]
      rfl
    | present h =>
      show Except.ok ((Fields.get? _ "site_config").getD .null) = _
      rw [h]
      rfl
  · intro h
    cases document with
    | null =>
      cases h
      exact .null
    | object fields =>
      cases h
      cases hget : Fields.get? fields configurationKey with
      | none => exact .absent hget
      | some v => exact .present hget
    | _ => cases h

theorem holdsPayload_iff {document payload : Value} :
    HoldsPayload document payload ↔ payloadOf document = payload := by
  constructor
  · intro h
    cases h with
    | wrapped h =>
      have hget : Fields.get? _ bodyKey = _ := h
      simp only [payloadOf, hget]
    | bare h =>
      unfold payloadOf
      split
      · split
        · next hget => exact absurd hget (h _ _ rfl)
        · rfl
      · rfl
  · rintro rfl
    unfold payloadOf
    split
    · next fields =>
      split
      · next hget => exact .wrapped hget
      · next hnot =>
        refine .bare fun fields' properties heq hget => ?_
        cases heq
        exact hnot properties hget
    · next hnot => exact .bare fun fields properties heq _ => hnot fields heq

/-! ## Failures -/

/-- The place that a failure names. -/
def Failure.place? : Failure → Option String
  | .refused field _ | .network _ field | .mask _ field => some field
  | _ => none

theorem Failure.exitCode_ne_zero (failure : Failure) : failure.exitCode ≠ 0 := by
  cases failure with
  | refused | unsupported => exact Nat.succ_ne_zero 1
  | network | mask | payload | malformed => exact Nat.succ_ne_zero 64
  | unreadable | unwritable => exact Nat.succ_ne_zero 73
  | unrenderable => exact Nat.succ_ne_zero 0

/-- A fault is reported at its own place. -/
theorem Failure.place?_ofFault {fault : Fault} {path : String} (h : fault.path? = some path) :
    (ofFault fault).place? = some path := by
  unfold ofFault
  rw [h]
  cases fault.root with
  | network | mask | field | within => rfl

/-- A network or a mask that cannot be read is a fault of the data. -/
theorem Failure.exitCode_ofFault_of_network {fault : Fault}
    (h : ∃ s, fault.root = .network s ∨ fault.root = .mask s) : (ofFault fault).exitCode = 65 := by
  unfold ofFault
  obtain ⟨s, h | h⟩ := h
  · rw [h]
    rfl
  · rw [h]
    rfl

/-- Any other fault is one of the request. -/
theorem Failure.exitCode_ofFault_of_field {fault : Fault}
    (h : ∀ s, fault.root ≠ .network s ∧ fault.root ≠ .mask s) : (ofFault fault).exitCode = 2 := by
  unfold ofFault
  cases hroot : fault.root with
  | network s => exact absurd hroot (h s).1
  | mask s => exact absurd hroot (h s).2
  | field path reason => rfl
  | within path inner => exact absurd hroot (fault.root_ne_within path inner)

/-! ## Outcomes -/

/-- What is left behind when a document is expanded. -/
structure ExpandOutcome (format : Format) (quiet : Bool) (document : Value) (outcome : Outcome) :
    Prop where
  success_iff : outcome.exitCode = 0 ↔
    ∃ v blocks, HoldsConfiguration document v ∧ Block.decode v = .ok blocks
  /-- Nothing can fail behind the check of the document. -/
  accepted : ∀ v blocks, HoldsConfiguration document v → Block.decode v = .ok blocks →
    ∃ body text, Block.expandFirst blocks = .ok body ∧ format.render body.document = some text ∧
      outcome = ⟨0, printed quiet text, none⟩
  refused : ∀ v fault, HoldsConfiguration document v → Block.decode v = .error fault →
    (∃ failure path, outcome.failure? = some failure ∧ fault.path? = some path ∧
      failure.place? = some path) ∧
    ((∃ s, fault.root = .network s ∨ fault.root = .mask s) → outcome.exitCode = 65) ∧
    ((∀ s, fault.root ≠ .network s ∧ fault.root ≠ .mask s) → outcome.exitCode = 2)
  noConfiguration : (∀ v, ¬ HoldsConfiguration document v) → outcome.exitCode = 2
  silent : outcome.exitCode ≠ 0 → outcome.output = ""

/-- What is left behind when a document is flattened. -/
structure FlattenOutcome (format : Format) (quiet : Bool) (document : Value) (outcome : Outcome) :
    Prop where
  success_iff : outcome.exitCode = 0 ↔
    ∃ payload body?, HoldsPayload document payload ∧ Body.read payload = .ok body? ∧
      ∀ body ∈ body?, body.ReadsNetworks
  accepted : ∀ payload body? blocks, HoldsPayload document payload →
    Body.read payload = .ok body? → Body.flattenOption body? = .ok blocks →
    ∃ text, format.render (.object [("site_config", Block.documents blocks)]) = some text ∧
      outcome = ⟨0, printed quiet text, none⟩
  refused : outcome.exitCode ≠ 0 → outcome.exitCode = 65
  silent : outcome.exitCode ≠ 0 → outcome.output = ""

/-- The outcome of a command that gives a value, or fails. -/
def Outcome.ofAnswer (format : Format) (quiet : Bool) (answer : Except Failure Value) : Outcome :=
  .ofRun ((answer >>= rendered format).map (printed quiet))

namespace Outcome

variable {format : Format} {quiet : Bool}

theorem ofAnswer_ok {v : Value} {text : String} (h : format.render v = some text) :
    ofAnswer format quiet (.ok v) = ⟨0, printed quiet text, none⟩ := by
  have hrendered : rendered format v = .ok text := by
    rw [rendered, h]
  show ofRun ((rendered format v).map (printed quiet)) = _
  rw [hrendered]
  rfl

theorem ofAnswer_error (failure : Failure) :
    ofAnswer format quiet (.error failure) = ⟨failure.exitCode, "", some failure⟩ :=
  rfl

/-- Only a run that succeeds has the exit code of success. -/
theorem exists_ok_of_exitCode {answer : Except Failure Value}
    (h : (ofAnswer format quiet answer).exitCode = 0) : ∃ v, answer = .ok v := by
  cases answer with
  | ok v => exact ⟨v, rfl⟩
  | error failure => exact absurd h failure.exitCode_ne_zero

/-- A run that fails prints nothing. -/
theorem output_ofRun {answer : Except Failure String} (h : (ofRun answer).exitCode ≠ 0) :
    (ofRun answer).output = "" := by
  cases answer with
  | ok text => exact absurd rfl h
  | error failure => rfl

end Outcome

/-! ## Expanding -/

section Expanding

variable {document v : Value} {format : Format} {quiet : Bool}

theorem blocksOf_eq (h : HoldsConfiguration document v) :
    blocksOf document = (match Block.decode v with
      | .ok blocks => .ok blocks
      | .error fault => .error (Failure.ofFault fault)) := by
  unfold blocksOf
  rw [holdsConfiguration_iff.mp h]
  rfl

/-- What is accepted is expanded. -/
theorem exists_expanded {blocks : List Block} (h : HoldsConfiguration document v)
    (hdecode : Block.decode v = .ok blocks) :
    ∃ body, Block.expandFirst blocks = .ok body ∧ expanded document = .ok body.document := by
  obtain ⟨body, hbody⟩ := Block.exists_expandFirst_eq_ok hdecode
  refine ⟨body, hbody, Steps.bind_eq_ok.mpr ⟨blocks, ?_, ?_⟩⟩
  · rw [blocksOf_eq h, hdecode]
  · rw [hbody]
    rfl

/-- Only what is accepted is expanded. -/
theorem exists_blocks_of_expanded {w : Value} (h : expanded document = .ok w) :
    ∃ v blocks, HoldsConfiguration document v ∧ Block.decode v = .ok blocks := by
  obtain ⟨blocks, hblocks, -⟩ := Steps.bind_eq_ok.mp h
  obtain ⟨v, hv, hread⟩ := Steps.bind_eq_ok.mp hblocks
  cases hdecode : Block.decode v with
  | ok blocks' => exact ⟨v, blocks', holdsConfiguration_iff.mpr hv, hdecode⟩
  | error fault =>
    rw [hdecode] at hread
    cases hread

theorem expanded_eq_error {fault : Fault} (h : HoldsConfiguration document v)
    (hdecode : Block.decode v = .error fault) :
    expanded document = .error (.ofFault fault) := by
  unfold expanded
  rw [blocksOf_eq h, hdecode]
  rfl

/-- A document without a configuration is a fault of the request. -/
theorem exists_refused (h : ∀ v, ¬ HoldsConfiguration document v) :
    ∃ field reason, expanded document = .error (.refused field reason) := by
  cases document with
  | null => exact absurd .null (h .null)
  | object fields =>
    have hholds := holdsConfiguration_iff.mpr (rfl : configurationOf (.object fields) = .ok _)
    exact absurd hholds (h _)
  | _ => exact ⟨_, _, rfl⟩

theorem exists_accepted {blocks : List Block} (h : HoldsConfiguration document v)
    (hdecode : Block.decode v = .ok blocks) :
    ∃ body text, Block.expandFirst blocks = .ok body ∧ format.render body.document = some text ∧
      Outcome.ofAnswer format quiet (expanded document) = ⟨0, printed quiet text, none⟩ := by
  obtain ⟨body, hbody, hanswer⟩ := exists_expanded h hdecode
  obtain ⟨text, htext⟩ := body.exists_render_document format
  refine ⟨body, text, hbody, htext, ?_⟩
  rw [hanswer, Outcome.ofAnswer_ok htext]

theorem expandOutcome_of_answer (document : Value) :
    ExpandOutcome format quiet document (.ofAnswer format quiet (expanded document)) where
  success_iff := by
    constructor
    · intro hcode
      obtain ⟨w, hw⟩ := Outcome.exists_ok_of_exitCode hcode
      exact exists_blocks_of_expanded hw
    · rintro ⟨v, blocks, hholds, hdecode⟩
      obtain ⟨body, text, -, -, houtcome⟩ := exists_accepted hholds hdecode
      rw [houtcome]
  accepted v blocks hholds hdecode := exists_accepted hholds hdecode
  refused v fault hholds hdecode := by
    obtain ⟨rest, hpath⟩ := Block.below_of_decode hdecode
    rw [expanded_eq_error hholds hdecode, Outcome.ofAnswer_error]
    refine ⟨⟨_, _, rfl, hpath, Failure.place?_ofFault hpath⟩, ?_, ?_⟩
    · exact Failure.exitCode_ofFault_of_network
    · exact Failure.exitCode_ofFault_of_field
  noConfiguration hnone := by
    obtain ⟨field, reason, hanswer⟩ := exists_refused hnone
    rw [hanswer]
    rfl
  silent := Outcome.output_ofRun

end Expanding

/-! ## Flattening -/

section Flattening

variable {document payload : Value} {body? : Option Body} {format : Format} {quiet : Bool}

/-- What flattening does with a payload: it cannot be read, it names a malformed network, or it has
blocks to show. -/
theorem flattened_cases (h : HoldsPayload document payload) :
    (∃ misfit, Body.read payload = .error misfit ∧
      flattened document = .error (.payload misfit)) ∨
    (∃ body? path ip, Body.read payload = .ok body? ∧
      Body.flattenOption body? = .error (.within path (.network ip)) ∧
      flattened document = .error (.ofFault (.within path (.network ip)))) ∨
    ∃ body? blocks, Body.read payload = .ok body? ∧ Body.flattenOption body? = .ok blocks ∧
      flattened document = .ok (.object [("site_config", Block.documents blocks)]) := by
  unfold flattened bodyOf
  rw [holdsPayload_iff.mp h]
  cases hread : Body.read payload with
  | error misfit => exact .inl ⟨misfit, rfl, rfl⟩
  | ok body? =>
    refine .inr ?_
    simp only [bind, Except.bind]
    cases hflat : Body.flattenOption body? with
    | error fault =>
      obtain ⟨path, ip, rfl⟩ := Body.flattenOption_eq_error hflat
      exact .inl ⟨body?, path, ip, rfl, hflat, rfl⟩
    | ok blocks => exact .inr ⟨body?, blocks, rfl, hflat, rfl⟩

/-- Only the payload of a document counts. -/
theorem flattened_congr {other : Value} (h : HoldsPayload document payload)
    (h' : HoldsPayload other payload) : flattened document = flattened other := by
  unfold flattened bodyOf
  rw [holdsPayload_iff.mp h, holdsPayload_iff.mp h']

theorem exists_shown {blocks : List Block} (h : HoldsPayload document payload)
    (hread : Body.read payload = .ok body?) (hflat : Body.flattenOption body? = .ok blocks) :
    ∃ text, format.render (.object [("site_config", Block.documents blocks)]) = some text ∧
      Outcome.ofAnswer format quiet (flattened document) = ⟨0, printed quiet text, none⟩ := by
  obtain ⟨text, htext⟩ := Block.exists_render_documents blocks "site_config" format
  refine ⟨text, htext, ?_⟩
  rcases flattened_cases h with ⟨misfit, hmisfit, -⟩ | ⟨_, path, ip, hbody, hfault, -⟩ |
    ⟨_, _, hbody, hblocks, hanswer⟩
  · cases hread.symm.trans hmisfit
  · cases hread.symm.trans hbody
    cases hflat.symm.trans hfault
  · cases hread.symm.trans hbody
    cases hflat.symm.trans hblocks
    rw [hanswer, Outcome.ofAnswer_ok htext]

theorem flattenOutcome_of_answer (document : Value) :
    FlattenOutcome format quiet document (.ofAnswer format quiet (flattened document)) where
  success_iff := by
    constructor
    · intro hcode
      obtain ⟨w, hw⟩ := Outcome.exists_ok_of_exitCode hcode
      have hholds : HoldsPayload document (payloadOf document) := holdsPayload_iff.mpr rfl
      rcases flattened_cases hholds with ⟨misfit, -, hanswer⟩ | ⟨_, path, ip, -, -, hanswer⟩ |
        ⟨body?, blocks, hread, hflat, -⟩
      · cases hanswer.symm.trans hw
      · cases hanswer.symm.trans hw
      · exact ⟨_, body?, hholds, hread, Body.exists_flattenOption_iff.mp ⟨blocks, hflat⟩⟩
    · rintro ⟨payload, body?, hpayload, hread, hreads⟩
      obtain ⟨blocks, hflat⟩ := Body.exists_flattenOption_iff.mpr hreads
      obtain ⟨text, -, houtcome⟩ := exists_shown hpayload hread hflat
      rw [houtcome]
  accepted payload body? blocks hholds hread hflat := exists_shown hholds hread hflat
  refused := by
    intro hcode
    have hholds : HoldsPayload document (payloadOf document) := holdsPayload_iff.mpr rfl
    rcases flattened_cases hholds with ⟨misfit, -, hanswer⟩ | ⟨_, path, ip, -, -, hanswer⟩ |
      ⟨body?, blocks, hread, hflat, -⟩
    -- A payload that cannot be read and a malformed network are both faults of the data.
    · rw [hanswer]
      rfl
    · rw [hanswer]
      rfl
    · obtain ⟨text, -, houtcome⟩ := exists_shown hholds hread hflat
      rw [houtcome] at hcode
      exact absurd rfl hcode
  silent := Outcome.output_ofRun

end Flattening

/-! ## Invocations -/

namespace Invocation

variable {around : Surroundings} {file : String} {document : Value}

/-- What is printed is what is given, in the format that is asked for. -/
theorem outcome_eq {invocation : Invocation} {answer : Except Failure Value}
    (htask : ∀ shell, invocation.task ≠ .completions shell)
    (htext : invocation.text around = answer >>= rendered (invocation.format around)) :
    invocation.outcome around
      = .ofAnswer (invocation.format around) invocation.quiet answer := by
  -- Only a completion script is printed in another way, and none is asked for.
  have hrun : invocation.run around
      = invocation.text around >>= fun text => pure (printed invocation.quiet text) := by
    unfold run
    split
    · next shell hshell => exact absurd hshell (htask shell)
    · rfl
  rw [outcome, hrun, htext, Outcome.ofAnswer]
  cases answer >>= rendered (invocation.format around) with
  | error failure => rfl
  | ok text => rfl

theorem load_eq_ok {format : Format} {text : String} (hformat : Format.ofPath? file = some format)
    (hfile : around.file file = .ok text) (hread : format.read text = some document) :
    load around file = .ok document := by
  unfold load
  rw [hformat]
  simp only [hfile, hread]

theorem outcome_expand (h : load around file = .ok document) (output : Option Format)
    (verbose : Nat) (quiet : Bool) :
    outcome ⟨.expand file, output, verbose, quiet⟩ around
      = .ofAnswer (format ⟨.expand file, output, verbose, quiet⟩ around) quiet
        (expanded document) := by
  refine outcome_eq (fun _ => Task.noConfusion) ?_
  show (load around file >>= fun document => expanded document >>= rendered _) = _
  rw [h]
  rfl

theorem outcome_flatten (h : load around file = .ok document) (output : Option Format)
    (verbose : Nat) (quiet : Bool) :
    outcome ⟨.flatten file, output, verbose, quiet⟩ around
      = .ofAnswer (format ⟨.flatten file, output, verbose, quiet⟩ around) quiet
        (flattened document) := by
  refine outcome_eq (fun _ => Task.noConfusion) ?_
  show (load around file >>= fun document => flattened document >>= rendered _) = _
  rw [h]
  rfl

/-- **What the two commands do with a document that can be loaded.** Of a document that holds a
payload, flattening looks at nothing but the payload. -/
theorem outcome_of_load (h : load around file = .ok document) (output : Option Format)
    (verbose : Nat) (quiet : Bool) :
    let format := output.getD (Preferences.format around.preferences around.environment)
    ExpandOutcome format quiet document (outcome ⟨.expand file, output, verbose, quiet⟩ around) ∧
      FlattenOutcome format quiet document
        (outcome ⟨.flatten file, output, verbose, quiet⟩ around) ∧
      ∀ file' document' payload, load around file' = .ok document' →
        HoldsPayload document payload → HoldsPayload document' payload →
        outcome ⟨.flatten file', output, verbose, quiet⟩ around
          = outcome ⟨.flatten file, output, verbose, quiet⟩ around := by
  intro format
  refine ⟨?_, ?_, ?_⟩
  · rw [outcome_expand h]
    exact expandOutcome_of_answer document
  · rw [outcome_flatten h]
    exact flattenOutcome_of_answer document
  · intro file' document' payload h' hpayload hpayload'
    rw [outcome_flatten h, outcome_flatten h', flattened_congr hpayload hpayload']
    rfl

/-- A document whose configuration has a malformed address, next to a payload without one. -/
def sampleText : String :=
  "[properties]\n\n[[site_config.ip_restriction]]\nip_address = \"10.0.0\"\n"

/-- The value of the text. -/
def sampleLoaded : Value :=
  .object [("properties", .object []),
    ("site_config", .object [("ip_restriction", .list [.object [("ip_address", .text "10.0.0")]])])]

/-- A file with the text. -/
def sampleAround : Surroundings where
  file _ := .ok sampleText
  preferences := none
  environment := []

theorem load_sampleAround : load sampleAround "site.toml" = .ok sampleLoaded := by
  have hformat : Format.ofPath? "site.toml" = some .toml := by
    decide +kernel
  have hread : Format.toml.read sampleText = some sampleLoaded := by
    decide +kernel
  exact load_eq_ok hformat rfl hread

/-- The configuration is refused at the place of the address, and the payload is flattened. -/
theorem outcome_sampleAround :
    (∃ failure,
      (outcome ⟨.expand "site.toml", some .toml, 0, false⟩ sampleAround).failure? = some failure ∧
      failure.place? = some "site_config.ip_restriction.0") ∧
    (outcome ⟨.expand "site.toml", some .toml, 0, false⟩ sampleAround).exitCode = 65 ∧
    (outcome ⟨.expand "site.toml", some .toml, 0, false⟩ sampleAround).output = "" ∧
    (outcome ⟨.flatten "site.toml", some .toml, 2, false⟩ sampleAround).exitCode = 0 := by
  obtain ⟨hexpand, -, -⟩ := outcome_of_load load_sampleAround (some .toml) 0 false
  obtain ⟨-, hflatten, -⟩ := outcome_of_load load_sampleAround (some .toml) 2 false
  have hholds : HoldsConfiguration sampleLoaded
      (.object [("ip_restriction", .list [.object [("ip_address", .text "10.0.0")]])]) :=
    .present rfl
  have hdecode : Block.decode
      (.object [("ip_restriction", .list [.object [("ip_address", .text "10.0.0")]])])
        = .error (.within "site_config.ip_restriction.0" (.network "10.0.0")) := rfl
  obtain ⟨⟨failure, path, hfailure, hpath, hplace⟩, hdata, -⟩ := hexpand.refused _ _ hholds hdecode
  cases hpath
  have hcode := hdata ⟨"10.0.0", .inl rfl⟩
  have hsilent := hexpand.silent (by rw [hcode]; decide)
  refine ⟨⟨failure, hfailure, hplace⟩, hcode, hsilent, ?_⟩
  refine hflatten.success_iff.mpr ⟨.object [], some {}, .wrapped rfl, rfl, ?_⟩
  intro body hbody rule hrule
  cases hbody
  cases hrule

end Invocation

end SiteConfig.CommandLine
