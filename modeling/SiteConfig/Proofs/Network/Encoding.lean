import SiteConfig.Proofs.Network.Mask
import SiteConfig.Proofs.Network.Reading
import SiteConfig.Proofs.Steps

/-!
# What is sent for an address and a mask, and what comes back

- `Cidr.Encodes ip mask c net`: the text `c` is sent for `ip` and `mask`, and it stands for the
  network `net`; one case for each way to come by the network.
- `Cidr.encode_eq_ok_iff`: encoding succeeds with `c` exactly when `c` is sent for some network.
- `Cidr.Encodes.parse?`: the text that is sent reads as its network.
- `Cidr.Decodes c apart pair`: the text `c` is taken apart into `pair`, next to the mask of an older
  record. `Cidr.decode_eq_ok_iff`: decoding succeeds exactly then, and `Cidr.decode_eq_error_iff`
  says how it fails otherwise.
-/

namespace SiteConfig

/-- The mask of a network. -/
def Network.mask (net : Network) : Address :=
  Mask.ofLength net.length

/-- The mask of a network that was read has the length that stands behind the slash. -/
theorem Network.hasLength_mask_of_parse? {s : List Char} {net : Network}
    (h : parse? s = some net) : Mask.HasLength net.mask net.length :=
  Mask.hasLength_ofLength (length_le_of_parse? h)

namespace Cidr

/-- The text that is sent for an address and a mask, and the network that it stands for. -/
inductive Encodes (ip mask : String) : String → Network → Prop
  /-- A mask decides the prefix length. -/
  | masked {a m : Address} {n : Nat} (hmask : mask ≠ "")
      (ha : Address.parse? (Text.trim ip.toList) = some a)
      (hm : Address.parse? (Text.trim mask.toList) = some m) (hn : Mask.HasLength m n) :
      Encodes ip mask (String.ofList (Network.text ⟨a, n⟩)) ⟨a, n⟩
  /-- Without a mask, a prefix behind the address decides, and the text is sent as it is. -/
  | carried {net : Network} (hmask : mask = "") (hslash : '/' ∈ ip.toList)
      (hnet : Network.parse? ip.toList = some net) : Encodes ip mask ip net
  /-- Without either, the address stands for itself. -/
  | single {a : Address} (hmask : mask = "") (hslash : '/' ∉ ip.toList)
      (ha : Address.parse? (Text.trim ip.toList) = some a) :
      Encodes ip mask (String.ofList (Network.text ⟨a, Mask.maxPrefix⟩)) ⟨a, Mask.maxPrefix⟩

theorem address_eq_ok_iff {s : String} {a : Address} :
    address s = .ok a ↔ Address.parse? (Text.trim s.toList) = some a := by
  unfold address
  cases Address.parse? (Text.trim s.toList) with
  | none => simp
  | some b => simp

theorem network_eq_ok_iff {s : String} {net : Network} :
    network s = .ok net ↔ Network.parse? s.toList = some net := by
  unfold network
  cases Network.parse? s.toList with
  | none => simp
  | some b => simp

theorem prefixLength_eq_ok_iff {m : Address} {n : Nat} :
    prefixLength m = .ok n ↔ Mask.HasLength m n := by
  rw [← Mask.prefixLength?_eq_some_iff]
  unfold prefixLength
  cases Mask.prefixLength? m with
  | none => simp
  | some b => simp

theorem encode_eq_ok_iff {ip mask c : String} :
    encode ip mask = .ok c ↔ ∃ net, Encodes ip mask c net := by
  constructor
  · intro h
    unfold encode at h
    split at h
    · next hmask =>
      simp only [Steps.bind_eq_ok, Steps.pure_eq_ok, address_eq_ok_iff, prefixLength_eq_ok_iff] at h
      obtain ⟨a, ha, m, hm, n, hn, rfl⟩ := h
      exact ⟨⟨a, n⟩, .masked hmask ha hm hn⟩
    · next hmask =>
      have hempty : mask = "" := Decidable.not_not.mp hmask
      split at h
      · next hslash =>
        simp only [Steps.bind_eq_ok, Steps.pure_eq_ok, network_eq_ok_iff] at h
        obtain ⟨net, hnet, rfl⟩ := h
        exact ⟨net, .carried hempty hslash hnet⟩
      · next hslash =>
        simp only [Steps.bind_eq_ok, Steps.pure_eq_ok, address_eq_ok_iff] at h
        obtain ⟨a, ha, rfl⟩ := h
        exact ⟨_, .single hempty hslash ha⟩
  · rintro ⟨net, h⟩
    unfold encode
    cases h with
    | masked hmask ha hm hn =>
      rw [if_pos hmask]
      simp only [Steps.bind_eq_ok, Steps.pure_eq_ok, address_eq_ok_iff, prefixLength_eq_ok_iff]
      exact ⟨_, ha, _, hm, _, hn, rfl⟩
    | carried hmask hslash hnet =>
      rw [if_neg (not_not_intro hmask), if_pos hslash]
      simp only [Steps.bind_eq_ok, Steps.pure_eq_ok, network_eq_ok_iff]
      exact ⟨_, hnet, trivial⟩
    | single hmask hslash ha =>
      rw [if_neg (not_not_intro hmask), if_neg hslash]
      simp only [Steps.bind_eq_ok, Steps.pure_eq_ok, address_eq_ok_iff]
      exact ⟨_, ha, rfl⟩

namespace Encodes

variable {ip mask c : String} {net : Network}

/-- **What is sent reads as the network it stands for.** -/
theorem parse? (h : Encodes ip mask c net) : Network.parse? c.toList = some net := by
  cases h with
  | masked _ _ _ hn =>
    rw [String.toList_ofList]
    exact Network.parse?_text hn.le
  | carried _ _ hnet => exact hnet
  | single =>
    rw [String.toList_ofList]
    exact Network.parse?_text (Nat.le_refl _)

/-- Unless the text was sent as it is, it is the network's own text. -/
theorem eq_text (h : Encodes ip mask c net) (hown : ¬ (mask = "" ∧ '/' ∈ ip.toList)) :
    c = String.ofList net.text := by
  cases h with
  | masked => rfl
  | carried hmask hslash _ => exact absurd ⟨hmask, hslash⟩ hown
  | single => rfl

end Encodes

/-- Texts that are written from an address and a mask of a given length stand for the network of
that address and length. -/
theorem encode_text {a m : Address} {n : Nat} (h : Mask.HasLength m n) :
    encode (String.ofList a.text) (String.ofList m.text)
      = .ok (String.ofList (Network.text ⟨a, n⟩)) :=
  encode_eq_ok_iff.mpr ⟨_, .masked m.ofList_text_ne a.parse?_trim_text m.parse?_trim_text h⟩

/-- A mask that was kept apart counts before the one that was read, unless it is empty. -/
theorem preferApart_eq (apart : Option String) (a : String) (own : Option String) :
    (match apart with
      | some m => if m ≠ "" then (⟨a, some m⟩ : Pair) else ⟨a, own⟩
      | none => ⟨a, own⟩) = ⟨a, (apart.filter (· ≠ "")).or own⟩ := by
  cases apart with
  | none => rfl
  | some m =>
    by_cases hm : m = ""
    · subst hm
      rfl
    · simp [hm, Option.filter]

/-- **A text that reads as a network is taken apart into the network's address and mask**, unless a
mask that was kept apart counts. -/
theorem decode_of_parse? {c : String} {net : Network} (h : Network.parse? c.toList = some net)
    (apart : Option String) :
    decode c apart = .ok ⟨String.ofList net.address.text,
      some ((apart.filter (· ≠ "")).getD (String.ofList net.mask.text))⟩ := by
  have hmask : Mask.ofPrefix? net.length = some net.mask :=
    Mask.ofPrefix?_of_le (Network.length_le_of_parse? h)
  unfold decode
  rw [if_pos (Network.slash_mem_of_parse? h), network_eq_ok_iff.mpr h]
  simp only [bind, Except.bind, pure, Except.pure, hmask, ← Option.or_some]
  exact congrArg Except.ok (preferApart_eq apart _ _)

/-- A text without a slash is passed on. -/
theorem decode_of_not_mem {c : String} (h : '/' ∉ c.toList) (apart : Option String) :
    decode c apart = .ok ⟨c, apart.filter (· ≠ "")⟩ := by
  unfold decode
  rw [if_neg h]
  rw [← Option.or_none (o := apart.filter _)]
  exact congrArg Except.ok (preferApart_eq apart c none)

/-- What a text, and a mask that was kept apart from it, are taken apart into. -/
inductive Decodes (c : String) (apart : Option String) : Pair → Prop
  /-- A network gives its address, and its mask unless the one kept apart counts. -/
  | network {net : Network} (hnet : Network.parse? c.toList = some net) :
      Decodes c apart ⟨String.ofList net.address.text,
        some ((apart.filter (· ≠ "")).getD (String.ofList net.mask.text))⟩
  /-- A text without a slash is passed on, whatever it is. -/
  | bare (hslash : '/' ∉ c.toList) : Decodes c apart ⟨c, apart.filter (· ≠ "")⟩

theorem decode_eq_ok_iff {c : String} {apart : Option String} {pair : Pair} :
    decode c apart = .ok pair ↔ Decodes c apart pair := by
  constructor
  · intro h
    by_cases hslash : '/' ∈ c.toList
    · have hread : ∃ net, network c = .ok net := by
        unfold decode at h
        rw [if_pos hslash, Steps.bind_eq_ok] at h
        obtain ⟨net, hnet, -⟩ := h
        exact ⟨net, hnet⟩
      obtain ⟨net, hread⟩ := hread
      have hnet := network_eq_ok_iff.mp hread
      rw [decode_of_parse? hnet] at h
      cases h
      exact .network hnet
    · rw [decode_of_not_mem hslash] at h
      cases h
      exact .bare hslash
  · intro h
    cases h with
    | network hnet => exact decode_of_parse? hnet apart
    | bare hslash => exact decode_of_not_mem hslash apart

/-- A text cannot be taken apart if it has a slash and does not read as a network. -/
theorem decode_eq_error_iff {c : String} {apart : Option String} {fault : Fault} :
    decode c apart = .error fault ↔
      '/' ∈ c.toList ∧ Network.parse? c.toList = none ∧ fault = .network c := by
  by_cases hslash : '/' ∈ c.toList
  · cases hnet : Network.parse? c.toList with
    | some net => simp [decode_of_parse? hnet]
    | none =>
      have hnetwork : network c = .error (.network c) := by
        unfold network
        rw [hnet]
      unfold decode
      rw [if_pos hslash, hnetwork]
      simp [bind, Except.bind, hslash, eq_comm]
  · simp [decode_of_not_mem hslash, hslash]

end Cidr

end SiteConfig
