import SiteConfig.Proofs.Block.Written
import SiteConfig.Proofs.Mapping.Expansion
import SiteConfig.Proofs.Network.Reading

/-!
# Writing the blocks of a document back

Blocks that were read from a document are written as a document and read again. All values come
back, given instead of filled in, and they stand for the same body, with one exception: a mask that
the schema filled in next to an address with a prefix. Once it is written it looks like a mask of
the user, it takes precedence over the prefix, and the address is refused.

- `Restriction.LosesPrefix`: the exception.
- `Block.decode_documents_of_decode`: the main statement, for all documents: what comes back, when
  nothing does, and which fault is reported then.
-/

namespace SiteConfig

/-! ## Access rules -/

namespace Restriction

/-- The rule has a prefix behind its address, and a mask that only the schema filled in. -/
def LosesPrefix (rule : Restriction) : Prop :=
  '/' ∈ rule.ipAddress.toList ∧ ∃ m, rule.subnetMask = .filled m

variable {rule : Restriction}

theorem Valid.reread_eq (h : rule.Valid) : rule.reread = rule.settled := by
  unfold reread settled
  rw [h.subnetMask.rereadText_eq (by decide)]

/-- A given mask is the one that counts. -/
theorem effectiveMask_settled (rule : Restriction) :
    rule.settled.effectiveMask = rule.maskText := by
  unfold settled effectiveMask maskText
  cases rule.subnetMask with
  | unset => rfl
  | filled m => rfl
  | given m => rfl

theorem effectiveMask_of_not_losesPrefix (h : ¬ rule.LosesPrefix) :
    rule.effectiveMask = rule.maskText := by
  unfold effectiveMask
  split
  · next m hm =>
    have hslash : '/' ∉ rule.ipAddress.toList := fun hslash => h ⟨hslash, m, hm⟩
    rw [if_neg hslash]
  · rfl

theorem cidr_settled (h : ¬ rule.LosesPrefix) : rule.settled.cidr = rule.cidr := by
  unfold cidr
  rw [effectiveMask_settled, effectiveMask_of_not_losesPrefix h]
  rfl

/-- Next to a given mask, an address with a prefix is refused. -/
theorem cidr_settled_of_losesPrefix (hvalid : rule.Valid) (h : rule.LosesPrefix) :
    rule.settled.cidr = .error (.network rule.ipAddress) := by
  obtain ⟨hslash, m, hm⟩ := h
  have hmask : rule.maskText ≠ "" := by
    have hholds := hvalid.subnetMask
    rw [hm] at hholds
    cases hholds
    rw [maskText, hm]
    decide
  have haddress : Cidr.address rule.ipAddress = .error (.network rule.ipAddress) := by
    rw [Cidr.address, Address.parse?_trim_of_slash hslash]
  unfold cidr Cidr.encode
  rw [effectiveMask_settled, if_pos hmask]
  show (Cidr.address rule.ipAddress >>= _) = _
  rw [haddress]
  rfl

theorem exists_cidr_reread_iff (hvalid : rule.Valid) :
    (∃ c, rule.reread.cidr = .ok c) ↔ ¬ rule.LosesPrefix := by
  rw [hvalid.reread_eq]
  constructor
  · rintro ⟨c, hc⟩ hloses
    rw [cidr_settled_of_losesPrefix hvalid hloses] at hc
    cases hc
  · intro hkeeps
    rw [cidr_settled hkeeps]
    exact hvalid.cidr

end Restriction

/-! ## Blocks -/

namespace Block

theorem Valid.reread_eq {block : Block} (h : block.Valid) : block.reread = block.settled := by
  have hrules : block.ipRestriction.map Restriction.reread
      = block.ipRestriction.map Restriction.settled :=
    List.map_congr_left fun rule hrule => (h.ipRestriction rule hrule).reread_eq
  unfold reread settled
  rw [h.alwaysOn.resolve_eq, h.dotnetFrameworkVersion.rereadText_eq (by decide),
    h.http2Enabled.resolve_eq, hrules, h.javaVersion.rereadText_eq (by decide),
    h.javaContainer.rereadText_eq (by decide), h.javaContainerVersion.rereadText_eq (by decide),
    h.localMysqlEnabled.resolve_eq, h.managedPipelineMode.rereadText_eq (by decide),
    h.phpVersion.rereadText_eq (by decide), h.pythonVersion.rereadText_eq (by decide),
    h.remoteDebuggingEnabled.resolve_eq, h.remoteDebuggingVersion.rereadText_eq (by decide),
    h.scmType.rereadText_eq (by decide), h.use32BitWorkerProcess.resolve_eq,
    h.websocketsEnabled.resolve_eq, h.ftpsState.rereadText_eq (by decide),
    h.linuxFxVersion.rereadText_eq (by decide), h.minTlsVersion.rereadText_eq (by decide),
    h.virtualNetworkName.rereadText_eq (by decide)]

theorem Valid.takes {block : Block} (h : block.Valid)
    (hkeeps : ∀ rule ∈ block.ipRestriction, ¬ rule.LosesPrefix) : block.Takes where
  dotnetFrameworkVersion := h.dotnetFrameworkVersion.takesText (by decide)
  ipRestriction rule hrule :=
    (Restriction.exists_cidr_reread_iff (h.ipRestriction rule hrule)).mpr (hkeeps rule hrule)
  javaVersion := h.javaVersion.takesText (by decide)
  javaContainer := h.javaContainer.takesText (by decide)
  javaContainerVersion := h.javaContainerVersion.takesText (by decide)
  managedPipelineMode := h.managedPipelineMode.takesText (by decide)
  phpVersion := h.phpVersion.takesText (by decide)
  pythonVersion := h.pythonVersion.takesText (by decide)
  remoteDebuggingVersion := h.remoteDebuggingVersion.takesText (by decide)
  scmType := h.scmType.takesText (by decide)
  ftpsState := h.ftpsState.takesText (by decide)
  linuxFxVersion := h.linuxFxVersion.takesText (by decide)
  minTlsVersion := h.minTlsVersion.takesText (by decide)
  virtualNetworkName := h.virtualNetworkName.takesText (by decide)

/-- What reading leaves can be written, but for the access rules that lose their prefix. -/
theorem Valid.takes_iff {block : Block} (h : block.Valid) :
    block.Takes ↔ ∀ rule ∈ block.ipRestriction, ¬ rule.LosesPrefix := by
  refine ⟨fun htakes rule hrule => ?_, h.takes⟩
  exact (Restriction.exists_cidr_reread_iff (h.ipRestriction rule hrule)).mp
    (htakes.ipRestriction rule hrule)

/-- Expanding looks at the values and not at where they come from, but for the access rules that
lose their prefix. -/
theorem expand_settled {block : Block} (h : ∀ rule ∈ block.ipRestriction, ¬ rule.LosesPrefix) :
    block.settled.expand = block.expand := by
  have hrules : Indexed.traverse expandRule (block.ipRestriction.map Restriction.settled)
      = Indexed.traverse expandRule block.ipRestriction :=
    traverse_expandRule_map fun rule hrule => Restriction.cidr_settled (h rule hrule)
  unfold expand settled expandEnum
  simp only [hrules, Setting.value?_settled]

/-- The first access rule that loses its prefix is the fault that is reported. -/
theorem Valid.decodeOne_eq_error {block : Block} (h : block.Valid) {i : Nat} {rule : Restriction}
    (hrule : block.ipRestriction[i]? = some rule) (hloses : rule.LosesPrefix)
    (hfirst : ∀ (j : Nat) (earlier : Restriction), j < i →
      block.ipRestriction[j]? = some earlier → ¬ earlier.LosesPrefix) :
    decodeOne block.document.ordered
      = .error (.within (entryPath i) (.network rule.ipAddress)) := by
  refine decodeOne_document_eq_error (h.dotnetFrameworkVersion.takesText (by decide)) ?_
  rw [Indexed.traverse_map, Indexed.traverse_eq_error_iff]
  refine ⟨i, rule, hrule, ?_, fun j earlier hj hearlier => ?_⟩
  · have hvalid := h.ipRestriction rule (List.mem_of_getElem? hrule)
    rw [Restriction.decode_document, hvalid.reread_eq,
      Restriction.cidr_settled_of_losesPrefix hvalid hloses]
  · have hvalid := h.ipRestriction earlier (List.mem_of_getElem? hearlier)
    obtain ⟨c, hc⟩ :=
      (Restriction.exists_cidr_reread_iff hvalid).mpr (hfirst j earlier hj hearlier)
    rw [Restriction.decode_document, hc]
    exact ⟨_, rfl⟩

theorem decode_documents_eq_ok_iff {v : Value} {blocks again : List Block}
    (h : decode v = .ok blocks) :
    decode (documents blocks).ordered = .ok again ↔
      (∀ block ∈ blocks, ∀ rule ∈ block.ipRestriction, ¬ rule.LosesPrefix) ∧
        again = blocks.map settled := by
  rcases decode_cases h with rfl | ⟨block, one, rfl, hone, -⟩
  · have hnone : decode (documents []).ordered = .ok [] := by
      rw [documents, Value.ordered_list]
      rfl
    rw [hnone]
    simp [eq_comm]
  · have hvalid := valid_of_decodeOne hone
    rw [decode_documents_singleton_eq_ok_iff, hvalid.takes_iff, hvalid.reread_eq,
      List.forall_mem_singleton]
    rfl

theorem expandFirst_settled {blocks : List Block}
    (h : ∀ block ∈ blocks, ∀ rule ∈ block.ipRestriction, ¬ rule.LosesPrefix) :
    expandFirst (blocks.map settled) = expandFirst blocks := by
  cases blocks with
  | nil => rfl
  | cons block rest => exact expand_settled (h block List.mem_cons_self)

/-- **What comes back when the blocks of a document are written and read again.** Something comes
back exactly if no access rule loses its prefix, and then it is the same blocks with their values
given, for which the same body is sent. Otherwise the first rule that loses its prefix is reported
as a malformed network. -/
theorem decode_documents_of_decode {v : Value} {blocks : List Block}
    (h : decode v = .ok blocks) :
    (∀ again, decode (documents blocks).ordered = .ok again ↔
        (∀ block ∈ blocks, ∀ rule ∈ block.ipRestriction, ¬ rule.LosesPrefix) ∧
          again = blocks.map settled) ∧
      (∀ again, decode (documents blocks).ordered = .ok again →
        ∃ body, expandFirst blocks = .ok body ∧ expandFirst again = .ok body) ∧
      (∀ block ∈ blocks, ∀ (i : Nat) (rule : Restriction),
        block.ipRestriction[i]? = some rule → rule.LosesPrefix →
        (∀ (j : Nat) (earlier : Restriction), j < i →
          block.ipRestriction[j]? = some earlier → ¬ earlier.LosesPrefix) →
        decode (documents blocks).ordered
          = .error (.within (entryPath i) (.network rule.ipAddress))) := by
  refine ⟨fun again => decode_documents_eq_ok_iff h, fun again hagain => ?_, ?_⟩
  · obtain ⟨hkeeps, rfl⟩ := (decode_documents_eq_ok_iff h).mp hagain
    obtain ⟨body, hbody⟩ := exists_expandFirst_eq_ok h
    exact ⟨body, hbody, (expandFirst_settled hkeeps).trans hbody⟩
  · intro block hblock i rule hrule hloses hfirst
    rcases decode_cases h with rfl | ⟨only, one, rfl, hone, -⟩
    · cases hblock
    · cases List.mem_singleton.mp hblock
      rw [decode_documents_singleton,
        (valid_of_decodeOne hone).decodeOne_eq_error hrule hloses hfirst]
      rfl

/-- The second entry of the sample document loses its prefix. -/
theorem decode_documents_sampleDocument :
    decode (documents [sampleBlock]).ordered
      = .error (.within (entryPath 1) (.network "192.168.0.0/+16")) := by
  obtain ⟨-, -, herror⟩ := decode_documents_of_decode decode_sampleDocument
  refine herror sampleBlock List.mem_cons_self 1 _ rfl ⟨by decide, _, rfl⟩ ?_
  intro j earlier hj hearlier hloses
  obtain rfl : j = 0 := Nat.lt_one_iff.mp hj
  cases hearlier
  exact absurd hloses.1 (by decide)

/-- A document with a prefix and no mask. -/
def prefixDocument : Value :=
  .list [.object [(Schema.ipRestrictions.name,
    .list [.object [(Schema.ipAddress.name, .text "10.0.0.0/24")]])]]

/-- It is accepted, and what is written for it is not. -/
theorem prefixDocument_lost :
    ∃ blocks, decode prefixDocument = .ok blocks ∧
      decode (documents blocks).ordered
        = .error (.within "site_config.ip_restriction.0" (.network "10.0.0.0/24")) :=
  ⟨_, rfl, rfl⟩

end Block

end SiteConfig
