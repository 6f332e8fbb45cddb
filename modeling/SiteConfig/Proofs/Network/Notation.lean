import SiteConfig.Proofs.Network.Grammar

/-!
# Canonical notation

An address and a mask, or a network, can be written in more than one way: with white space around
it, with a sign or with zeros in front of the prefix length. One of these ways is canonical, and it
is the one that is written.

- `Network.Canonical s net`: the text `s` is the network in canonical notation, character by
  character. `Network.canonical_iff`: this is the text that is written for it.
- `Cidr.Denotes ip mask a m`: the address and the mask that two texts stand for.
- `Cidr.decode_undoes_encode`: taking apart what is sent gives these back in canonical notation, and
  putting together what was taken apart gives the canonical notation of the network.
-/

namespace SiteConfig

/-! ## The notation of a network -/

namespace Network

/-- A prefix length in plain digits: without a sign, without a zero in front, and at most 32. -/
structure PlainLength (s : List Char) (n : Nat) : Prop where
  ne_nil : s ≠ []
  digits : ∀ c ∈ s, c.isDigit = true
  noLeadingZero : s.head? = some '0' → s = ['0']
  value : Nat.ofDigitChars 10 s 0 = n
  le : n ≤ 32

/-- A network in canonical notation: a dotted quad, one slash and a plain prefix length, with nothing
around them. -/
inductive Canonical : List Char → Network → Prop
  | slash {s t : List Char} {a : Address} {n : Nat} (ha : Address.Quad s a)
      (hn : PlainLength t n) : Canonical (s ++ '/' :: t) ⟨a, n⟩

theorem plainLength_iff {s : List Char} {n : Nat} :
    PlainLength s n ↔ s = Text.decimal n ∧ n ≤ 32 := by
  constructor
  · intro h
    refine ⟨?_, h.le⟩
    rw [← h.value]
    exact Text.eq_decimal_of_digits h.ne_nil h.digits h.noLeadingZero
  · rintro ⟨rfl, hle⟩
    -- A length of at most 32 is an octet, and the octets are known to be of this form.
    have hoctet : Address.Octet (Text.decimal n) n :=
      Address.octet_iff.mpr (Address.octet?_eq_some_iff.mpr ⟨by omega, rfl⟩)
    exact ⟨hoctet.ne_nil, hoctet.digits, hoctet.noLeadingZero, hoctet.value, hle⟩

/-- **The canonical notation of a network is what is written for it.** -/
theorem canonical_iff {s : List Char} {net : Network} :
    Canonical s net ↔ s = net.text ∧ net.length ≤ Mask.maxPrefix := by
  constructor
  · rintro ⟨ha, hn⟩
    obtain ⟨rfl, hle⟩ := plainLength_iff.mp hn
    rw [ha.eq_text]
    exact ⟨rfl, hle⟩
  · rintro ⟨rfl, hle⟩
    exact .slash (Address.quad_text net.address) (plainLength_iff.mpr ⟨rfl, hle⟩)

end Network

/-! ## There and back -/

namespace Cidr

/-- The address and the mask that two texts stand for, the second of which may be empty. -/
inductive Denotes (ip mask : String) : Address → Address → Prop
  /-- Both are written. -/
  | masked {a m : Address} (hmask : mask ≠ "") (hip : IsAddress ip a) (hm : IsAddress mask m) :
      Denotes ip mask a m
  /-- The prefix length behind the address stands for the mask. -/
  | carried {net : Network} {m : Address} (hmask : mask = "") (hip : IsNetwork ip net)
      (hm : Mask.HasLength m net.length) : Denotes ip mask net.address m
  /-- A bare address stands for a single host. -/
  | single {a : Address} (hmask : mask = "") (hip : IsAddress ip a) :
      Denotes ip mask a (BitVec.allOnes 32)

/-- What is sent stands for the network of the address and the mask that the texts stand for. -/
theorem Encodes.denotes {ip mask c : String} {net : Network} (h : Encodes ip mask c net) :
    Denotes ip mask net.address net.mask := by
  cases h with
  | masked hmask ha hm hn =>
    rw [Network.mask, ← hn.unique (Mask.hasLength_ofLength hn.le)]
    exact .masked hmask (isAddress_iff.mpr (address_eq_ok_iff.mpr ha))
      (isAddress_iff.mpr (address_eq_ok_iff.mpr hm))
  | carried hmask _ hnet =>
    exact .carried hmask (isNetwork_iff.mpr (network_eq_ok_iff.mpr hnet))
      (Network.hasLength_mask_of_parse? hnet)
  | @single a hmask _ ha =>
    have hones : Network.mask ⟨a, Mask.maxPrefix⟩ = BitVec.allOnes 32 :=
      (Mask.hasLength_ofLength (Nat.le_refl _)).unique Mask.hasLength_allOnes
    rw [hones]
    exact .single hmask (isAddress_iff.mpr (address_eq_ok_iff.mpr ha))

section

variable {net : Network}

/-- A text that reads as a network is taken apart into the network's address and mask. -/
theorem decode_none_of_parse? {c : String} (h : Network.parse? c.toList = some net) :
    decode c none = .ok ⟨String.ofList net.address.text, some (String.ofList net.mask.text)⟩ :=
  decode_of_parse? h none

/-- The address and the mask of a network are put together as its text. -/
theorem encode_address_mask (h : net.length ≤ Mask.maxPrefix) :
    encode (String.ofList net.address.text) (String.ofList net.mask.text)
      = .ok (String.ofList net.text) :=
  encode_text (Mask.hasLength_ofLength h)

end

/-- **Decoding undoes encoding, and encoding undoes decoding**, up to notation. What is sent for two
texts is taken apart into the address and the mask that they stand for. These are put together as the
canonical text of their network, which is what was sent, unless that is the address as it is written;
and the canonical text is taken apart and put together again as it is. The other way round, whatever
is taken apart into an address and a mask is put together as the canonical text of the network that
it is. -/
theorem decode_undoes_encode :
    (∀ ip mask c : String, encode ip mask = .ok c →
      ∃ (a m : Address) (n : Nat), Denotes ip mask a m ∧ Mask.HasLength m n ∧
        decode c none = .ok ⟨String.ofList a.text, some (String.ofList m.text)⟩ ∧
        encode (String.ofList a.text) (String.ofList m.text)
          = .ok (String.ofList (Network.text ⟨a, n⟩)) ∧
        (¬ (mask = "" ∧ '/' ∈ ip.toList) → c = String.ofList (Network.text ⟨a, n⟩)) ∧
        decode (String.ofList (Network.text ⟨a, n⟩)) none
          = .ok ⟨String.ofList a.text, some (String.ofList m.text)⟩) ∧
    ∀ c address mask : String, decode c none = .ok ⟨address, some mask⟩ →
      ∃ net, IsNetwork c net ∧ encode address mask = .ok (String.ofList net.text) := by
  constructor
  · intro ip mask c h
    obtain ⟨net, hencodes⟩ := encode_eq_ok_iff.mp h
    have hlength := Network.length_le_of_parse? hencodes.parse?
    have hagain : Network.parse? (String.ofList net.text).toList = some net := by
      rw [String.toList_ofList]
      exact Network.parse?_text hlength
    exact ⟨net.address, net.mask, net.length, hencodes.denotes, Mask.hasLength_ofLength hlength,
      decode_none_of_parse? hencodes.parse?, encode_address_mask hlength, hencodes.eq_text,
      decode_none_of_parse? hagain⟩
  · intro c address mask h
    -- Without a slash, there would be no mask.
    cases decode_eq_ok_iff.mp h with
    | network hnet =>
      exact ⟨_, isNetwork_iff.mpr (network_eq_ok_iff.mpr hnet),
        encode_address_mask (Network.length_le_of_parse? hnet)⟩

/-- A network with white space, a sign and a zero is sent as it is written, and comes back without
them. -/
theorem decode_undoes_encode_signed :
    encode " 10.0.0.0/+024 " "" = .ok " 10.0.0.0/+024 " ∧
      decode " 10.0.0.0/+024 " none = .ok ⟨"10.0.0.0", some "255.255.255.0"⟩ ∧
      ∃ net, IsNetwork " 10.0.0.0/+024 " net ∧
        encode "10.0.0.0" "255.255.255.0" = .ok (String.ofList net.text) ∧
        decode (String.ofList net.text) none = .ok ⟨"10.0.0.0", some "255.255.255.0"⟩ := by
  have hsent : encode " 10.0.0.0/+024 " "" = .ok " 10.0.0.0/+024 " := by decide +kernel
  have hread : decode " 10.0.0.0/+024 " none = .ok ⟨"10.0.0.0", some "255.255.255.0"⟩ := by
    decide +kernel
  obtain ⟨a, m, n, -, -, hdecode, hencode, -, hagain⟩ := decode_undoes_encode.1 _ _ _ hsent
  obtain ⟨net, hnet, hcanonical⟩ := decode_undoes_encode.2 _ _ _ hread
  rw [hread, Except.ok.injEq, Pair.mk.injEq, Option.some.injEq] at hdecode
  rw [← hdecode.1, ← hdecode.2] at hencode hagain
  rw [hencode, Except.ok.injEq] at hcanonical
  rw [hcanonical] at hencode hagain
  exact ⟨hsent, hread, net, hnet, hencode, hagain⟩

end Cidr

end SiteConfig
