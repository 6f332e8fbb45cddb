import SiteConfig.Proofs.Printing.LastText
import SiteConfig.Proofs.Rendering

/-!
# Reading back what was printed

The mapping commands print bodies and documents of blocks. What they print is the text that a format
writes, without the white space at its end and with one line break. JSON takes any white space behind
a value, a TOML text ends with a line break anyway, and so does a YAML text, unless its last text ends
with white space of its own. That white space is then lost.

- `CommandLine.Product v`: a value that the mapping commands print.
- `Format.Keeps format v`: nothing of the value is lost at the end of its text.
- `CommandLine.printed_eq_iff`: TOML and YAML are printed as they were written, exactly then.
- `CommandLine.read_printed`: what was printed is read back, if what was written is.
- `CommandLine.read_run_json`: so what a command prints as JSON can be the input of another.
-/

namespace SiteConfig

/-- Nothing of the value is lost at the end of its text: in YAML, the last text must keep its end. -/
def Format.Keeps (format : Format) (v : Value) : Prop :=
  format = .yaml → ∀ s ∈ v.lastText?, Yaml.KeepsEnd s.toList

namespace CommandLine

/-- What the mapping commands print: a body, or a document of blocks. -/
inductive Product : Value → Prop
  | body (body : Body) : Product body.document
  | blocks (blocks : List Block) :
      Product (.object [(configurationKey, .list (blocks.map Block.document))])

theorem product_of_expanded {document v : Value} (h : expanded document = .ok v) : Product v := by
  obtain ⟨blocks, -, h⟩ := Steps.bind_eq_ok.mp h
  cases hbody : Block.expandFirst blocks with
  | error fault =>
    rw [hbody] at h
    cases h
  | ok body =>
    rw [hbody] at h
    cases h
    exact .body body

theorem product_of_flattened {document v : Value} (h : flattened document = .ok v) : Product v := by
  obtain ⟨body?, -, h⟩ := Steps.bind_eq_ok.mp h
  cases hblocks : Body.flattenOption body? with
  | error fault =>
    rw [hblocks] at h
    cases h
  | ok blocks =>
    rw [hblocks] at h
    cases h
    exact .blocks blocks

/-- A product is an object that holds truth values and texts. -/
theorem Product.exists_plain {v : Value} (h : Product v) :
    ∃ fields, v = .object fields ∧ v.Plain Json.maxDepth := by
  cases h with
  | body body => exact ⟨_, rfl, body.plain_document.mono (by decide)⟩
  | blocks blocks => exact ⟨_, rfl, (Block.plain_documents blocks _).mono (by decide)⟩

/-- What is rendered is what is written, without the white space at its end. -/
theorem eq_of_render {format : Format} {v : Value} {s : List Char} {text : String}
    (hwrite : format.write v = some (String.ofList s)) (hrender : format.render v = some text) :
    text = String.ofList (Text.trimEnd s) := by
  rw [Format.render, hwrite, Option.map_some, Option.some_inj, String.toList_ofList] at hrender
  exact hrender.symm

/-- A JSON text ends with the bracket that closes it. -/
theorem endsShown_prettyAt (fields : Fields) : Text.EndsShown (Json.prettyAt 0 (.object fields)) := by
  have hbracket : Text.EndsShown ['\x7d'] := Text.endsShown_singleton (by decide)
  match fields with
  | [] => exact hbracket.append ['\x7b']
  | (key, v) :: rest =>
    rw [Json.prettyAt]
    exact hbracket.append ('\x7b' :: _)

section Product

variable {format : Format} {v : Value} {written text : String}

/-- **TOML and YAML are printed as they were written**, exactly if the value is kept. -/
theorem printed_eq_iff (hv : Product v) (hformat : format ≠ .json)
    (hwrite : format.write v = some written) (hrender : format.render v = some text) :
    printed false text = written ↔ format.Keeps v := by
  obtain ⟨fields, rfl, hplain⟩ := hv.exists_plain
  cases format with
  | json => exact absurd rfl hformat
  | toml =>
    have htoml : Format.toml.write (.object fields)
        = some (String.ofList (Toml.documentText fields)) := if_pos hplain.fits
    cases hwrite.symm.trans htoml
    have hkept : Format.toml.Keeps (.object fields) := fun hyaml => nomatch hyaml
    cases hplain with
    | object hfields =>
    rw [eq_of_render htoml hrender, printed_trimEnd_iff]
    exact iff_of_true (Toml.endsLine_documentText hfields) hkept
  | yaml =>
    have hyaml : Format.yaml.write (.object fields)
        = some (String.ofList (Yaml.documentText (.object fields))) := rfl
    cases hwrite.symm.trans hyaml
    have hne : Yaml.documentText (.object fields) ≠ [] := by
      obtain ⟨c, rest, hstart, -⟩ := Yaml.starts_body hplain 0
      intro hnil
      rw [Yaml.documentText, hstart] at hnil
      · cases hnil
      · exact fun s hs => nomatch hs
    rw [eq_of_render hyaml hrender, printed_trimEnd_iff, or_iff_right hne,
      Yaml.endsLine_documentText_iff hplain]
    exact ⟨fun hkept _ => hkept, fun hkept => hkept rfl⟩

/-- What is printed of a JSON text is read back: only a line break is added to it. -/
theorem read_printed_json (hv : Product v) (hrender : Format.json.render v = some text) :
    Format.json.read (printed false text) = some v.ordered := by
  obtain ⟨fields, rfl, hplain⟩ := hv.exists_plain
  have hjson : Format.json.write (.object fields)
      = some (String.ofList (Json.prettyAt 0 (.object fields))) := rfl
  obtain ⟨htrim, hne⟩ := (endsShown_prettyAt fields).trimEnd_eq
  have hempty : (String.ofList (Json.prettyAt 0 (.object fields))).isEmpty = false := by
    rw [Bool.eq_false_iff, ne_eq, String.isEmpty_iff, ← String.ofList_nil, String.ofList_inj]
    exact hne
  rw [eq_of_render hjson hrender, htrim, printed, hempty]
  simp only [Format.read, Json.read, String.toList_append, String.toList_ofList, Bool.or_false,
    Bool.false_eq_true, if_false]
  exact Json.readChars_prettyAt hplain (by decide)

/-- What is printed of a value that is kept is read back, if what was written is. -/
theorem read_printed_of_keeps (hv : Product v) (hwrite : format.write v = some written)
    (hrender : format.render v = some text)
    (hread : format = .json ∨ format.read written = some v.ordered) (hkept : format.Keeps v) :
    format.read (printed false text) = some v.ordered := by
  by_cases hjson : format = .json
  · subst hjson
    exact read_printed_json hv hrender
  · rw [(printed_eq_iff hv hjson hwrite hrender).mpr hkept]
    exact hread.resolve_left hjson

end Product

/-- **What was printed is read back**: a body or a document of blocks has a text in every format, and
the printed text gives the same value, as long as the value is kept. Of TOML and YAML it is taken that
the text as it was written gives the value. -/
theorem read_printed {v : Value} (hv : Product v) (format : Format) :
    ∃ written text, format.write v = some written ∧ format.render v = some text ∧
      (format ≠ .json → (printed false text = written ↔ format.Keeps v)) ∧
      (format = .json ∨ format.read written = some v.ordered → format.Keeps v →
        format.read (printed false text) = some v.ordered) := by
  obtain ⟨fields, hfields, hplain⟩ := hv.exists_plain
  obtain ⟨written, hwrite⟩ : ∃ written, format.write v = some written := by
    rw [hfields] at hplain ⊢
    exact Format.exists_write hplain format
  obtain ⟨text, hrender⟩ : ∃ text, format.render v = some text := by
    rw [hfields] at hplain ⊢
    exact Format.exists_render hplain format
  exact ⟨written, text, hwrite, hrender, fun hjson => printed_eq_iff hv hjson hwrite hrender,
    read_printed_of_keeps hv hwrite hrender⟩

/-- A body whose last text has two lines. -/
def linedBody : Body :=
  { linuxFxVersion := some "DOCKER|a  #b", vnetName := some "a\nb\n" }

/-- A text of two lines is printed as a block of lines, with the one line break that ends it. -/
theorem read_printed_linedBody :
    ∃ written text, Format.yaml.write linedBody.document = some written ∧
      Format.yaml.render linedBody.document = some text ∧
      printed false text = written ∧
      Format.yaml.read (printed false text) = some linedBody.document.ordered := by
  have hkept : Format.yaml.Keeps linedBody.document := by
    have hlast : linedBody.document.lastText? = some "a\nb\n" := by decide +kernel
    intro _ s hs
    cases hlast.symm.trans hs
    decide +kernel
  obtain ⟨written, text, hwrite, hrender, hprinted, hread⟩ :=
    read_printed (.body linedBody) .yaml
  have hwritten : Format.yaml.read written = some linedBody.document.ordered := by
    have h : (Format.yaml.write linedBody.document).bind Format.yaml.read
        = some linedBody.document.ordered := by decide +kernel
    rwa [hwrite] at h
  exact ⟨written, text, hwrite, hrender, (hprinted (by decide)).mpr hkept,
    hread (.inr hwritten) hkept⟩

/-- A body whose last text ends with an empty line. -/
def paddedBody : Body :=
  { vnetName := some "a\n\n" }

/-- The empty line at the end of the last text is lost: the text as it was written is read back, and
the printed text is read as another body. -/
theorem paddedBody_lost :
    ∃ written text, Format.yaml.write paddedBody.document = some written ∧
      Format.yaml.read written = some paddedBody.document.ordered ∧
      Format.yaml.render paddedBody.document = some text ∧
      Format.yaml.read (printed false text)
        = some (Body.document { vnetName := some "a\n" }).ordered ∧
      Format.yaml.read (printed false text) ≠ some paddedBody.document.ordered :=
  ⟨"vnetName: |+\n  a\n\n", "vnetName: |+\n  a", by decide +kernel, by decide +kernel,
    by decide +kernel, by decide +kernel, by decide +kernel⟩

/-! ## Runs -/

/-- The value that a mapping command makes of a document. -/
inductive Made (document v : Value) (file : String) : Task → Prop
  | expand (h : expanded document = .ok v) : Made document v file (.expand file)
  | flatten (h : flattened document = .ok v) : Made document v file (.flatten file)

theorem Made.product {document v : Value} {file : String} {task : Task}
    (h : Made document v file task) : Product v := by
  cases h with
  | expand h => exact product_of_expanded h
  | flatten h => exact product_of_flattened h

/-- A mapping command prints the text of what it makes of the document in its file. -/
theorem exists_made_of_run {invocation : Invocation} {around : Surroundings} {file out : String}
    (htask : invocation.task = .expand file ∨ invocation.task = .flatten file)
    (hrun : invocation.run around = .ok out) :
    ∃ document v text, load around file = .ok document ∧ Made document v file invocation.task ∧
      (invocation.format around).render v = some text ∧ out = printed invocation.quiet text := by
  have hrendered : ∀ {format : Format} {v : Value} {text : String}, rendered format v = .ok text →
      format.render v = some text := by
    intro format v text h
    unfold rendered at h
    split at h
    · cases h
      assumption
    · cases h
  obtain ⟨text, htext, hout⟩ := Steps.bind_eq_ok.mp hrun
  rcases htask with htask | htask
  all_goals
    rw [Invocation.text, htask] at htext
    rw [htask] at hout ⊢
    cases hout
    obtain ⟨document, hload, htext⟩ := Steps.bind_eq_ok.mp htext
    obtain ⟨v, hv, htext⟩ := Steps.bind_eq_ok.mp htext
  · exact ⟨document, v, text, hload, .expand hv, hrendered htext, rfl⟩
  · exact ⟨document, v, text, hload, .flatten hv, hrendered htext, rfl⟩

/-- **What a mapping command prints as JSON is read as what it made**, so that it can be the input of
another command. -/
theorem read_run_json {invocation : Invocation} {around : Surroundings} {file out : String}
    (htask : invocation.task = .expand file ∨ invocation.task = .flatten file)
    (hquiet : invocation.quiet = false) (hformat : invocation.format around = .json)
    (hrun : invocation.run around = .ok out) :
    ∃ document v, load around file = .ok document ∧ Made document v file invocation.task ∧
      Format.json.read out = some v.ordered := by
  obtain ⟨document, v, text, hload, hmade, hrender, rfl⟩ := exists_made_of_run htask hrun
  rw [hformat] at hrender
  rw [hquiet]
  exact ⟨document, v, hload, hmade, read_printed_json hmade.product hrender⟩

end CommandLine

end SiteConfig
