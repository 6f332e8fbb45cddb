import SiteConfig.Text.Caseless

/-!
# The service's enumerations

The service adds values to its enumerations over time. A text that a vocabulary knows, in whatever
case, stands for the value; any other text is kept as it is, so that a response can always be read.

- `Vocabulary`: the values of an enumeration and their spellings; one of them is the zero value,
  spelled as the empty text.
- `Vocabulary.parse?`: the value that a text stands for.
- `Vocabulary.Lawful`: every value is read back from its spelling.
- `Reported`: a known value or an unknown text.
- `Reported.read_text`: what reading can produce is read back from its text.
-/

namespace SiteConfig

/-- An enumeration of the service. -/
class Vocabulary (E : Type) where
  /-- The value of an enumeration that nobody set. -/
  zero : E
  /-- All values. -/
  members : List E
  /-- The spelling of a value. -/
  spelling : E → String

namespace Vocabulary

variable {E : Type} [Vocabulary E]

/-- The value that a text stands for; the case of ASCII letters does not count. -/
def parse? (s : String) : Option E :=
  members.find? fun e => Text.sameUpToCase (spelling e) s

end Vocabulary

/-- How the pipeline of the web server is managed. -/
inductive PipelineMode
  | unspecified
  | classic
  | integrated
  deriving DecidableEq, Repr, Inhabited

instance : Vocabulary PipelineMode where
  zero := .unspecified
  members := [.unspecified, .classic, .integrated]
  spelling
    | .unspecified => ""
    | .classic => "Classic"
    | .integrated => "Integrated"

/-- The source control attached to a site. -/
inductive SourceControl
  | unspecified
  | none
  | dropbox
  | tfs
  | localGit
  | gitHub
  | codePlexGit
  | codePlexHg
  | bitbucketGit
  | bitbucketHg
  | externalGit
  | externalHg
  | oneDrive
  | vso
  | vstsrm
  deriving DecidableEq, Repr, Inhabited

instance : Vocabulary SourceControl where
  zero := .unspecified
  members := [.unspecified, .none, .dropbox, .tfs, .localGit, .gitHub, .codePlexGit, .codePlexHg,
    .bitbucketGit, .bitbucketHg, .externalGit, .externalHg, .oneDrive, .vso, .vstsrm]
  spelling
    | .unspecified => ""
    | .none => "None"
    | .dropbox => "Dropbox"
    | .tfs => "Tfs"
    | .localGit => "LocalGit"
    | .gitHub => "GitHub"
    | .codePlexGit => "CodePlexGit"
    | .codePlexHg => "CodePlexHg"
    | .bitbucketGit => "BitbucketGit"
    | .bitbucketHg => "BitbucketHg"
    | .externalGit => "ExternalGit"
    | .externalHg => "ExternalHg"
    | .oneDrive => "OneDrive"
    | .vso => "VSO"
    | .vstsrm => "VSTSRM"

/-- Which kinds of FTP a site admits. -/
inductive FtpsState
  | unspecified
  | allAllowed
  | ftpsOnly
  | disabled
  deriving DecidableEq, Repr, Inhabited

instance : Vocabulary FtpsState where
  zero := .unspecified
  members := [.unspecified, .allAllowed, .ftpsOnly, .disabled]
  spelling
    | .unspecified => ""
    | .allAllowed => "AllAllowed"
    | .ftpsOnly => "FtpsOnly"
    | .disabled => "Disabled"

/-- The least version of TLS that a site admits. -/
inductive TlsVersion
  | unspecified
  | v10
  | v11
  | v12
  deriving DecidableEq, Repr, Inhabited

instance : Vocabulary TlsVersion where
  zero := .unspecified
  members := [.unspecified, .v10, .v11, .v12]
  spelling
    | .unspecified => ""
    | .v10 => "1.0"
    | .v11 => "1.1"
    | .v12 => "1.2"

/-- Every value of the enumeration is read back from its spelling. -/
class Vocabulary.Lawful (E : Type) [Vocabulary E] : Prop where
  parse?_spelling : ∀ e : E, Vocabulary.parse? (Vocabulary.spelling e) = some e

instance : Vocabulary.Lawful PipelineMode where
  parse?_spelling e := by cases e <;> decide +kernel

instance : Vocabulary.Lawful SourceControl where
  parse?_spelling e := by cases e <;> decide +kernel

instance : Vocabulary.Lawful FtpsState where
  parse?_spelling e := by cases e <;> decide +kernel

instance : Vocabulary.Lawful TlsVersion where
  parse?_spelling e := by cases e <;> decide +kernel

/-- A value of an enumeration, or a text that its vocabulary does not know. -/
inductive Reported (E : Type)
  | known (value : E)
  | other (text : String)
  deriving DecidableEq, Repr

namespace Reported

variable {E : Type} [Vocabulary E]

/-- The zero value. -/
def zero : Reported E :=
  .known Vocabulary.zero

instance : Inhabited (Reported E) := ⟨zero⟩

/-- The text on the wire. -/
def text : Reported E → String
  | .known e => Vocabulary.spelling e
  | .other s => s

/-- What a text on the wire says. -/
def read (s : String) : Reported E :=
  match Vocabulary.parse? s with
  | some e => .known e
  | none => .other s

/-- What an optional text on the wire says: an absent one is the zero value. -/
def readOption : Option String → Reported E
  | some s => read s
  | none => zero

/-- A text that is kept is one that the vocabulary does not know. -/
def IsNormal : Reported E → Prop
  | .known _ => True
  | .other s => (Vocabulary.parse? s : Option E) = none

theorem isNormal_read (s : String) : (read s : Reported E).IsNormal := by
  unfold read
  split
  · trivial
  · next h => exact h

theorem isNormal_readOption (s : Option String) : (readOption s : Reported E).IsNormal := by
  cases s with
  | none => trivial
  | some s => exact isNormal_read s

theorem read_text [Vocabulary.Lawful E] {x : Reported E} (h : x.IsNormal) : read x.text = x := by
  cases x with
  | known e => simp [read, text, Vocabulary.Lawful.parse?_spelling e]
  | other s =>
    have k : (Vocabulary.parse? s : Option E) = none := h
    simp [read, text, k]

end Reported

end SiteConfig
