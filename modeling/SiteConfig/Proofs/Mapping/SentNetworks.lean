import SiteConfig.Proofs.Mapping.Completeness
import SiteConfig.Proofs.Mapping.Sent
import SiteConfig.Proofs.Network.Notation

/-!
# The notation in which networks are sent

For every entry of a document that is accepted, a network is sent. It is in canonical notation if the
network had to be put together, from an address and a mask or from a bare address. An entry whose
address has a prefix, and which has no mask of its own, is passed through: the address is sent as the
document has it, with what a reader of networks skips.

- `Fields.PassesThrough entry ip`: the address `ip` of the entry is sent as it is written.
- `Fields.SentAs entry c`: the text `c` that is sent for the entry is in the notation that the entry
  asks for.
- `Block.sentAs_of_decode`: the main statement, for all documents that are accepted.
-/

namespace SiteConfig

namespace Fields

/-- The entry is passed through: its address has a slash, and it has no mask but perhaps an empty
one. -/
structure PassesThrough (entry : Fields) (ip : String) : Prop where
  address : entry.get? "ip_address" = some (.text ip)
  slash : '/' ∈ ip.toList
  mask : ∀ mask, entry.get? "subnet_mask" = some (.text mask) → mask = ""

/-- The text that is sent for an entry is a network. It is the address of the entry, if that is passed
through, and otherwise it is in canonical notation. -/
structure SentAs (entry : Fields) (c : String) : Prop where
  network : ∃ net, Cidr.IsNetwork c net
  passed : ∀ ip, entry.PassesThrough ip → c = ip
  canonical : (∀ ip, ¬ entry.PassesThrough ip) → ∃ net, Network.Canonical c.toList net

end Fields

/-! ## One entry -/

/-- What is encoded from an address and a mask stands in canonical notation, unless the address is
passed through. -/
theorem Cidr.Encodes.canonical {ip mask c : String} {net : Network} (h : Encodes ip mask c net)
    (hown : ¬ (mask = "" ∧ '/' ∈ ip.toList)) : Network.Canonical c.toList net := by
  rw [h.eq_text hown, String.toList_ofList]
  exact Network.canonical_iff.mpr ⟨rfl, Network.length_le_of_parse? h.parse?⟩

/-- An address that is passed through is sent as it is written. -/
theorem Cidr.Encodes.eq_of_carried {ip c : String} {net : Network} (h : Encodes ip "" c net)
    (hslash : '/' ∈ ip.toList) : c = ip := by
  cases h with
  | masked hmask _ _ _ => exact absurd rfl hmask
  | carried _ _ _ => rfl
  | single _ hbare _ => exact absurd hslash hbare

/-- What is encoded for an entry is in its notation, if the mask that is handed to the encoder is
empty next to a prefix exactly when the entry is passed through. -/
theorem Fields.sentAs_of_encode {entry : Fields} {ip mask c : String}
    (hip : entry.get? "ip_address" = some (.text ip))
    (hpasses : entry.PassesThrough ip ↔ mask = "" ∧ '/' ∈ ip.toList)
    (hsent : Cidr.encode ip mask = .ok c) : entry.SentAs c := by
  obtain ⟨net, hencodes⟩ := Cidr.encode_eq_ok_iff.mp hsent
  constructor
  case network =>
    exact ⟨net, Cidr.isNetwork_iff.mpr (Cidr.network_eq_ok_iff.mpr hencodes.parse?)⟩
  case passed =>
    intro ip' hpassed
    cases hip.symm.trans hpassed.address
    obtain ⟨rfl, hslash⟩ := hpasses.mp hpassed
    exact hencodes.eq_of_carried hslash
  case canonical =>
    intro hown
    exact ⟨net, hencodes.canonical fun h => hown ip (hpasses.mpr h)⟩

/-- An entry asks for a network in the notation in which it is sent. -/
theorem Restriction.Asks.sentAs {v : Value} {c : String} (h : Asks v c) :
    ∃ entry : Fields, v = .object entry ∧ entry.SentAs c := by
  cases h with
  | @masked entry ip mask _ _ hip hmask hsent =>
    refine ⟨entry, rfl, Fields.sentAs_of_encode hip ⟨fun h => ⟨h.mask mask hmask, h.slash⟩, ?_⟩ hsent⟩
    rintro ⟨rfl, hslash⟩
    refine ⟨hip, hslash, fun mask hmask' => ?_⟩
    cases hmask.symm.trans hmask'
    rfl
  | @unmasked entry ip _ _ hip hmask hsent =>
    refine ⟨entry, rfl, Fields.sentAs_of_encode hip ⟨fun h => ⟨if_pos h.slash, h.slash⟩, ?_⟩ hsent⟩
    rintro ⟨-, hslash⟩
    refine ⟨hip, hslash, fun mask hmask' => ?_⟩
    rcases hmask with hnone | hnull
    · cases hnone.symm.trans hmask'
    · cases hnull.symm.trans hmask'

/-! ## Documents -/

namespace Block

/-- Without a block, a document has no entries. -/
theorem authoredRules_eq_nil {v : Value} (h : decode v = .ok []) : authoredRules v = [] := by
  unfold decode at h
  split at h
  · rfl
  · rfl
  · obtain ⟨block, -, hnil⟩ := Steps.map_eq_ok.mp h
    cases hnil
  · cases h
  · obtain ⟨block, -, hnil⟩ := Steps.map_eq_ok.mp h
    cases hnil
  · cases h

/-- What is sent for the entries of a document, one after the other, are the networks that they ask
for. -/
theorem exists_asked_of_decode {v : Value} {blocks : List Block} (h : decode v = .ok blocks) :
    ∃ body rules, expandFirst blocks = .ok body ∧ body.ipSecurityRestrictions = some rules ∧
      List.Forall₂ (fun entry rule => ∃ c, Restriction.Asks entry c ∧ rule = ⟨some c, some ""⟩)
        (authoredRules v) rules := by
  obtain ⟨body, hbody⟩ := exists_expandFirst_eq_ok h
  rcases decode_cases h with rfl | ⟨block, one, rfl, hone, hv⟩
  · cases hbody
    rw [authoredRules_eq_nil h]
    exact ⟨_, [], rfl, rfl, .nil⟩
  · have hauthored : authoredRules v = authoredRules one := by
      rcases hv with rfl | rfl
      · rfl
      · exact authoredRules_list hone
    obtain ⟨path, hread⟩ := traverse_authoredRules hone
    obtain ⟨rules, mode, scm, ftps, tls, hrules, -, -, -, -, rfl⟩ := expand_eq_ok_iff.mp hbody
    rw [hauthored]
    exact ⟨_, rules, hbody, rfl, forall₂_asks hread hrules⟩

/-- **In which notation networks are sent.** For every entry of a document that is accepted a network
is sent: the address of the entry as it is written, if it has a prefix and the entry has no mask, and
a text in canonical notation otherwise. -/
theorem sentAs_of_decode {v : Value} {blocks : List Block} (h : decode v = .ok blocks) :
    ∃ body rules, expandFirst blocks = .ok body ∧ body.ipSecurityRestrictions = some rules ∧
      List.Forall₂ (fun v rule => ∃ (entry : Fields) (c : String), v = .object entry ∧
        rule = ⟨some c, some ""⟩ ∧ entry.SentAs c) (authoredRules v) rules := by
  obtain ⟨body, rules, hbody, hrules, hasked⟩ := exists_asked_of_decode h
  refine ⟨body, rules, hbody, hrules, hasked.imp fun v rule => ?_⟩
  rintro ⟨c, hasks, rfl⟩
  obtain ⟨entry, rfl, hsent⟩ := hasks.sentAs
  exact ⟨entry, c, rfl, rfl, hsent⟩

/-- The networks of the sample document: the first is put together from an address and a mask, the
second is passed through with its sign, and the third stands for a bare address. -/
theorem sentAs_sampleDocument :
    ∃ body, expandFirst [sampleBlock] = .ok body ∧
      body.ipSecurityRestrictions = some [⟨some "10.1.0.0/16", some ""⟩,
        ⟨some "192.168.0.0/+16", some ""⟩, ⟨some "10.0.0.1/32", some ""⟩] ∧
      (∃ net, Network.Canonical "10.1.0.0/16".toList net) ∧
      (∃ net, Cidr.IsNetwork "192.168.0.0/+16" net) ∧
      ∃ net, Network.Canonical "10.0.0.1/32".toList net := by
  obtain ⟨body, rules, hbody, hrules, hall⟩ := sentAs_of_decode decode_sampleDocument
  have hsent : body.ipSecurityRestrictions = some [⟨some "10.1.0.0/16", some ""⟩,
      ⟨some "192.168.0.0/+16", some ""⟩, ⟨some "10.0.0.1/32", some ""⟩] := by
    cases hbody
    rfl
  cases hrules.symm.trans hsent
  obtain ⟨⟨masked, c₁, hmasked, hc₁, hfirst⟩, hall⟩ := List.forall₂_cons.mp hall
  obtain ⟨⟨signed, c₂, hsigned, hc₂, hsecond⟩, hall⟩ := List.forall₂_cons.mp hall
  obtain ⟨⟨bare, c₃, hbare, hc₃, hthird⟩, -⟩ := List.forall₂_cons.mp hall
  cases hmasked; cases hc₁
  cases hsigned; cases hc₂
  cases hbare; cases hc₃
  refine ⟨body, hbody, hsent, hfirst.canonical fun ip hpasses => ?_, hsecond.network,
    hthird.canonical fun ip hpasses => ?_⟩
  · exact absurd (hpasses.mask "255.255.0.0" rfl) (by decide)
  · cases hpasses.address
    exact absurd hpasses.slash (by decide)

/-- A document whose one network has white space around it, and a sign and a zero in front of its
prefix length. -/
def signedDocument : Value :=
  .list [.object [(Schema.ipRestrictions.name,
    .list [.object [(Schema.ipAddress.name, .text " 10.0.0.0/+024 ")]])]]

/-- It is accepted, and what is sent for it is not in canonical notation. -/
theorem signedDocument_sent :
    ∃ blocks body, decode signedDocument = .ok blocks ∧ expandFirst blocks = .ok body ∧
      body.ipSecurityRestrictions = some [⟨some " 10.0.0.0/+024 ", some ""⟩] ∧
      ∀ net, ¬ Network.Canonical " 10.0.0.0/+024 ".toList net := by
  refine ⟨_, _, rfl, rfl, rfl, fun net hcanonical => ?_⟩
  obtain ⟨htext, -⟩ := Network.canonical_iff.mp hcanonical
  have hspace : ' ' ∈ net.text := htext ▸ by decide
  exact absurd (Network.not_isBlank_of_mem_text hspace) (by decide)

end Block

end SiteConfig
