import SiteConfig.Proofs.Block.Written
import SiteConfig.Proofs.Body.Written

/-!
# What is ever written

Bodies and blocks are written as truth values and texts, in lists and objects: there is no `null`
among them and no number.

- `Value.Plain depth v`: a value of this kind, nested no deeper than `depth`.
- `Value.plain_ofItems`: an object that is written item by item is one if each of its values is.
- `Body.plain_document`, `Block.plain_documents`: so is every body, and so is every list of blocks.
-/

namespace SiteConfig

/-- Truth values and texts, in lists and objects that are nested at most so many levels deep. -/
inductive Value.Plain : Nat → Value → Prop
  | bool (depth : Nat) (b : Bool) : Plain depth (.bool b)
  | text (depth : Nat) (s : String) : Plain depth (.text s)
  | list {depth : Nat} {items : List Value} (hitems : ∀ v ∈ items, Plain depth v) :
      Plain (depth + 1) (.list items)
  | object {depth : Nat} {fields : Fields} (hfields : ∀ field ∈ fields, Plain depth field.2) :
      Plain (depth + 1) (.object fields)

namespace Value

theorem Plain.mono {v : Value} {depth depth' : Nat} (h : v.Plain depth) (hle : depth ≤ depth') :
    v.Plain depth' := by
  induction h generalizing depth' with
  | bool => exact .bool _ _
  | text => exact .text _ _
  | list hitems ih =>
    obtain ⟨n, rfl⟩ : ∃ n, depth' = n + 1 := ⟨depth' - 1, by omega⟩
    exact .list fun v hv => ih v hv (by omega)
  | object hfields ih =>
    obtain ⟨n, rfl⟩ : ∃ n, depth' = n + 1 := ⟨depth' - 1, by omega⟩
    exact .object fun field hfield => ih field hfield (by omega)

/-- An optional value is plain if it is so wherever it is there. -/
theorem plain_of_mem_map {α : Type} {f : α → Value} {depth : Nat} (hf : ∀ a, (f a).Plain depth)
    (a? : Option α) : ∀ v ∈ a?.map f, v.Plain depth := by
  intro v hv
  obtain ⟨a, -, rfl⟩ := Option.map_eq_some_iff.mp hv
  exact hf a

theorem plain_list_map {α : Type} {f : α → Value} {depth : Nat} (hf : ∀ a, (f a).Plain depth)
    (as : List α) : (list (as.map f)).Plain (depth + 1) := by
  refine .list fun v hv => ?_
  obtain ⟨a, -, rfl⟩ := List.mem_map.mp hv
  exact hf a

/-- An object that is written item by item is plain if each of its values is. -/
theorem plain_ofItems {ι : Type} {name : ι → String} {value : ι → Option Value} {items : List ι}
    {depth : Nat} (h : ∀ i ∈ items, ∀ v ∈ value i, v.Plain depth) :
    (object (Fields.ofItems name value items)).Plain (depth + 1) := by
  refine .object fun field hfield => ?_
  obtain ⟨i, hi, hv, -⟩ := Fields.mem_ofItems.mp hfield
  exact h i hi field.2 hv

end Value

open Value (Plain plain_list_map plain_of_mem_map plain_ofItems)

/-! ## Bodies -/

theorem Rule.plain_document (rule : Rule) : rule.document.Plain 1 := by
  rw [document_eq]
  refine plain_ofItems fun s _ => ?_
  cases s with
  | ipAddress | subnetMask => exact plain_of_mem_map (.text 0) _

namespace Body

theorem plain_of_mem_written (body : Body) (s : Slot) : ∀ v ∈ body.written s, v.Plain 2 := by
  have henum : ∀ {E : Type} [Vocabulary E] [DecidableEq E] (x : Reported E),
      ∀ v ∈ writtenEnum x, v.Plain 2 := by
    intro E _ _ x v hv
    unfold writtenEnum at hv
    split at hv
    · cases hv
    · cases hv
      exact .text 2 x.text
  cases s with
  | defaultDocuments => exact plain_of_mem_map (plain_list_map (.text 1)) _
  | ipSecurityRestrictions => exact plain_of_mem_map (plain_list_map Rule.plain_document) _
  | managedPipelineMode | scmType | ftpsState | minTlsVersion => exact henum _
  | alwaysOn | http20Enabled | localMySqlEnabled | remoteDebuggingEnabled | use32BitWorkerProcess
  | webSocketsEnabled => exact plain_of_mem_map (.bool 2) _
  | netFrameworkVersion | javaVersion | javaContainer | javaContainerVersion | linuxFxVersion
  | phpVersion | pythonVersion | remoteDebuggingVersion | vnetName =>
    exact plain_of_mem_map (.text 2) _

theorem plain_document (body : Body) : body.document.Plain 3 := by
  rw [document, fields_eq]
  exact plain_ofItems fun s _ => body.plain_of_mem_written s

end Body

/-! ## Blocks -/

theorem Restriction.plain_document (rule : Restriction) : rule.document.Plain 1 := by
  rw [document_eq, Fields.ofSlots_eq_ofItems]
  refine plain_ofItems fun slot hslot => ?_
  simp only [slots, List.mem_cons, List.not_mem_nil, or_false] at hslot
  rcases hslot with rfl | rfl
  · intro v hv
    cases hv
    exact .text 0 rule.ipAddress
  · exact plain_of_mem_map (.text 0) _

namespace Block

theorem plain_of_mem_slots (block : Block) : ∀ slot ∈ block.slots, ∀ v ∈ slot.2, v.Plain 2 := by
  have hflag : ∀ b? : Option Bool, ∀ v ∈ b?.map Value.bool, v.Plain 2 :=
    plain_of_mem_map (.bool 2)
  have htext : ∀ s? : Option String, ∀ v ∈ s?.map Value.text, v.Plain 2 :=
    plain_of_mem_map (.text 2)
  have hlist : ∀ {α : Type} {f : α → Value}, (∀ a, (f a).Plain 1) →
      ∀ as : List α, ∀ v ∈ some (Value.list (as.map f)), v.Plain 2 := by
    intro α f hf as v hv
    cases hv
    exact plain_list_map hf as
  unfold slots
  simp only [List.forall_mem_cons]
  exact ⟨hflag _, hlist (.text 1) _, htext _, hflag _, hlist Restriction.plain_document _,
    htext _, htext _, htext _, hflag _, htext _, htext _, htext _, hflag _, htext _, htext _,
    hflag _, hflag _, htext _, htext _, htext _, htext _, fun _ h => absurd h List.not_mem_nil⟩

theorem plain_document (block : Block) : block.document.Plain 3 := by
  rw [document, fields_eq, Fields.ofSlots_eq_ofItems]
  exact plain_ofItems block.plain_of_mem_slots

/-- A list of blocks is plain, under whatever key it stands. -/
theorem plain_documents (blocks : List Block) (key : String) :
    (Value.object [(key, documents blocks)]).Plain 5 := by
  refine .object (List.forall_mem_singleton.mpr ?_)
  exact plain_list_map plain_document blocks

end Block

end SiteConfig
