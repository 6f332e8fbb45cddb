import SiteConfig.Proofs.Body.Written
import SiteConfig.Proofs.Mapping.Expansion
import SiteConfig.Session

/-!
# Sessions keep their body in normal form

A body enters a session in two ways only: it is made from the blocks, which sends known values and
nothing else, or it is read from the document, which recognises every text that a vocabulary knows.
So no list of steps leads to a body that would come back changed from its own document.

- `Session.run`: the session after a list of steps; a step that fails leaves it as it is.
- `Session.isNormal_advance`, `Session.isNormal_run`: the invariant, for a step and for a run.
- `Session.run_lossless`: the main statement, for all lists of steps.
-/

namespace SiteConfig

namespace Session

/-- The session after a step. A step that fails leaves it as it is. -/
def advance (session : Session) (step : Step) : Session :=
  match session.apply step with
  | .ok (_, after) => after
  | .error _ => session

/-- The session after a list of steps. -/
def run (session : Session) (steps : List Step) : Session :=
  steps.foldl advance session

/-- The session's body, if there is one, is in normal form. -/
def IsNormal (session : Session) : Prop :=
  ∀ body ∈ session.body, body.IsNormal

/-- What a step does to the body: nothing, or it makes it from the blocks, or it reads it from the
document. -/
theorem body_of_apply {session after : Session} {step : Step} {part : Part}
    (h : session.apply step = .ok (part, after)) :
    after.body = session.body ∨
      (∃ body, Block.expandFirst session.blocks = .ok body ∧ after.body = some body) ∨
      Body.read session.document = .ok after.body := by
  cases step with
  | document v =>
    cases h
    exact .inl rfl
  | edit pointer v =>
    rw [apply] at h
    split at h
    · cases h
      exact .inl rfl
    · cases h
  | push block =>
    cases h
    exact .inl rfl
  | decode | flatten =>
    rw [apply] at h
    split at h
    · cases h
      exact .inl rfl
    · cases h
  | writeBlocks | writeBody =>
    cases h
    exact .inl rfl
  | expand =>
    rw [apply] at h
    split at h
    · next body hbody =>
      cases h
      exact .inr (.inl ⟨body, hbody, rfl⟩)
    · cases h
  | readBody =>
    rw [apply] at h
    split at h
    · next body hbody =>
      cases h
      exact .inr (.inr hbody)
    · cases h

/-- **One step keeps the body in normal form**, whether it succeeds or fails. -/
theorem isNormal_advance {session : Session} (h : session.IsNormal) (step : Step) :
    (session.advance step).IsNormal := by
  unfold advance
  cases happly : session.apply step with
  | error e => exact h
  | ok result =>
    obtain ⟨part, after⟩ := result
    intro body hbody
    rcases body_of_apply happly with hsame | ⟨made, hmade, hafter⟩ | hread
    · exact h body (hsame ▸ hbody)
    · have heq : made = body := Option.some.inj (hafter.symm.trans hbody)
      subst heq
      exact (Block.allKnown_of_expandFirst hmade).isNormal
    · have hsome : after.body = some body := hbody
      rw [hsome] at hread
      exact Body.isNormal_of_read hread

theorem isNormal_run {session : Session} (h : session.IsNormal) (steps : List Step) :
    (session.run steps).IsNormal := by
  induction steps generalizing session with
  | nil => exact h
  | cons step rest ih => exact ih (isNormal_advance h step)

/-- Writing the body and reading it changes the document and nothing else. -/
theorem run_writeBody_readBody {session : Session} (h : session.IsNormal) :
    session.run [.writeBody, .readBody]
      = { session with document := (Body.documentOption session.body).ordered } := by
  obtain ⟨-, hread⟩ := Body.read_documentOption h
  simp only [run, List.foldl_cons, List.foldl_nil, advance, apply, hread]

/-- **Whatever the steps, no body is changed by writing and reading it.** All four enumerations
are in normal form; the body's document reads as the body, as it is written and with its keys in
order; an absent body is written as `null`, and a body that is there is written as an object. -/
theorem run_lossless (steps : List Step) :
    (∀ body ∈ (run {} steps).body, body.IsNormal) ∧
      Body.read (Body.documentOption (run {} steps).body) = .ok (run {} steps).body ∧
      Body.read (Body.documentOption (run {} steps).body).ordered = .ok (run {} steps).body ∧
      (run {} (steps ++ [.writeBody, .readBody])).body = (run {} steps).body ∧
      ((run {} steps).body = none →
        Body.documentOption (run {} steps).body = .null ∧ Body.read .null = .ok none) ∧
      (∀ body, (run {} steps).body = some body →
        ∃ fields, Body.documentOption (run {} steps).body = .object fields) ∧
      (Body.documentOption (some {}) = .object [] ∧ Body.read (.object []) = .ok (some {})) ∧
      ∀ v body?, Body.read v = .ok body? →
        Body.read (Body.documentOption body?) = .ok body? ∧
          Body.read (Body.documentOption body?).ordered = .ok body? := by
  have hstart : IsNormal {} := fun body hbody => by cases hbody
  have hnormal := isNormal_run hstart steps
  obtain ⟨hplain, hordered⟩ := Body.read_documentOption hnormal
  refine ⟨hnormal, hplain, hordered, ?_, ?_, ?_, ⟨rfl, rfl⟩, ?_⟩
  · have happend : run {} (steps ++ [.writeBody, .readBody])
        = (run {} steps).run [.writeBody, .readBody] := List.foldl_append
    rw [happend, run_writeBody_readBody hnormal]
  · intro hnone
    rw [hnone]
    exact ⟨rfl, rfl⟩
  · intro body hsome
    rw [hsome]
    exact ⟨body.fields, rfl⟩
  · intro v body? hread
    refine Body.read_documentOption fun body hbody => ?_
    cases hbody
    exact Body.isNormal_of_read hread

/-- A response with a text that is not known and one in another case is read. -/
def sampleSteps : List Step :=
  [.document (.object [("ftpsState", .text "ftpsonly"), ("scmType", .text "AzureRepos")]),
    .readBody]

/-- The text that is not known comes back as it is, and the other one as the value it stands
for. -/
theorem run_lossless_sampleSteps :
    ∃ body, (run {} sampleSteps).body = some body ∧ body.scmType = .other "AzureRepos" ∧
      body.ftpsState = .known .ftpsOnly ∧
      Body.read (Body.documentOption (some body)).ordered = .ok (some body) := by
  obtain ⟨body, hbody, hscm, hftps⟩ : ∃ body, (run {} sampleSteps).body = some body ∧
      body.scmType = .other "AzureRepos" ∧ body.ftpsState = .known .ftpsOnly :=
    ⟨_, rfl, rfl, rfl⟩
  obtain ⟨-, -, hread, -⟩ := run_lossless sampleSteps
  rw [hbody] at hread
  exact ⟨body, hbody, hscm, hftps, hread⟩

end Session

end SiteConfig
