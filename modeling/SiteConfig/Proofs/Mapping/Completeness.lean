import SiteConfig.Proofs.Mapping.Expansion

/-!
# Checking a document is enough

Whatever document is accepted, its blocks can be expanded: no check is left to the mapping. The
body that comes out leaves nothing open that the schema decides.

- `Body.Complete`: what the body for a block of a document always states.
- `Rule.SentFor`: the access rule that is sent for an entry of a document.
- `expandFirst_of_decode`: the main statement, for all documents.
-/

namespace SiteConfig

/-- What the body for a block of a document always states. -/
structure Body.Complete (body : Body) : Prop where
  managedPipelineMode : ∃ e, body.managedPipelineMode = .known e
  scmType : body.scmType = .known .none ∨ body.scmType = .known .localGit
  ftpsState : ∃ e, body.ftpsState = .known e
  minTlsVersion : ∃ e, body.minTlsVersion = .known e
  alwaysOn : ∃ b, body.alwaysOn = some b
  http20Enabled : ∃ b, body.http20Enabled = some b
  remoteDebuggingEnabled : ∃ b, body.remoteDebuggingEnabled = some b
  netFrameworkVersion : ∃ s, body.netFrameworkVersion = some s
  defaultDocuments : ∃ names, body.defaultDocuments = some names
  ipSecurityRestrictions : ∃ rules, body.ipSecurityRestrictions = some rules

/-- The access rule is the one that is sent for an entry of a document: the network of the entry,
and a blank mask. -/
def Rule.SentFor (sent : Rule) (entry : Value) : Prop :=
  ∃ path rule c, Restriction.decode path entry = .ok rule ∧ rule.cidr = .ok c ∧
    sent = ⟨some c, some ""⟩

namespace Block

/-- The entries of the list of access rules in a `site_config` value. -/
def authoredRules : Value → List Value
  | .object fields => (Form.mk rootPath fields).listed Schema.ipRestrictions
  | .list [.object fields] => (Form.mk rootPath fields).listed Schema.ipRestrictions
  | _ => []

/-- A block has the same entries on its own and as the only one of a list. -/
theorem authoredRules_list {v : Value} {block : Block} (h : decodeOne v = .ok block) :
    authoredRules (.list [v]) = authoredRules v := by
  obtain ⟨fields, rfl, -⟩ := decodeOne_eq_ok_iff.mp h
  rfl

/-- The access rules of a block are read from the entries of its document, in order. -/
theorem traverse_authoredRules {v : Value} {block : Block} (h : decodeOne v = .ok block) :
    ∃ path : Nat → String,
      Indexed.traverse (fun i entry => Restriction.decode (path i) entry) (authoredRules v)
        = .ok block.ipRestriction := by
  obtain ⟨fields, rfl, -, hread⟩ := decodeOne_eq_ok_iff.mp h
  exact ⟨_, Form.traverse_listed hread.ipRestriction⟩

/-- What is sent for the rules of a block is sent for the entries of its document. -/
theorem sentFor_of_traverse {entries : List Value} {path : Nat → String}
    {restrictions : List Restriction} {rules : List Rule}
    (hread : Indexed.traverse (fun i entry => Restriction.decode (path i) entry) entries
      = .ok restrictions)
    (hsent : Indexed.traverse expandRule restrictions = .ok rules) :
    rules.length = entries.length ∧
      ∀ (i : Nat) (entry : Value), entries[i]? = some entry →
        ∃ sent, rules[i]? = some sent ∧ sent.SentFor entry := by
  obtain ⟨hlen, hread⟩ := (Indexed.traverse_eq_ok_iff _ _ _).mp hread
  obtain ⟨hlen', hsent⟩ := (Indexed.traverse_eq_ok_iff _ _ _).mp hsent
  refine ⟨hlen'.trans hlen, fun i entry hentry => ?_⟩
  obtain ⟨rule, hrule, hdecode⟩ := hread i entry hentry
  obtain ⟨sent, hsent, hexpand⟩ := hsent i rule hrule
  obtain ⟨c, hc, rfl⟩ := expandRule_eq_ok_iff.mp hexpand
  exact ⟨_, hsent, path i, rule, c, hdecode, hc, rfl⟩

theorem spelling_scmType {e : SourceControl}
    (h : Vocabulary.spelling e ∈ Schema.scmType.allowed) : e = .none ∨ e = .localGit := by
  revert h
  cases e <;> decide

/-- The body for a valid block is complete. -/
theorem complete_bodyWith {block : Block} (h : block.Valid) {scm : SourceControl}
    (hscm : Vocabulary.spelling scm ∈ Schema.scmType.allowed) (rules : List Rule)
    (mode : PipelineMode) (ftps : FtpsState) (tls : TlsVersion) :
    (block.bodyWith rules (.known mode) (.known scm) (.known ftps) (.known tls)).Complete where
  managedPipelineMode := ⟨mode, rfl⟩
  scmType := by
    rcases spelling_scmType hscm with rfl | rfl
    · exact .inl rfl
    · exact .inr rfl
  ftpsState := ⟨ftps, rfl⟩
  minTlsVersion := ⟨tls, rfl⟩
  alwaysOn := h.alwaysOn.isSome rfl
  http20Enabled := h.http2Enabled.isSome rfl
  remoteDebuggingEnabled := h.remoteDebuggingEnabled.isSome rfl
  netFrameworkVersion := h.dotnetFrameworkVersion.isSome rfl
  defaultDocuments := ⟨block.defaultDocuments, rfl⟩
  ipSecurityRestrictions := ⟨rules, rfl⟩

/-- **Every document that is accepted can be expanded.** If it has a block, the body states all
that the schema decides, and has one access rule for each entry of the document, in its order. -/
theorem expandFirst_of_decode {v : Value} {blocks : List Block} (h : decode v = .ok blocks) :
    ∃ body, expandFirst blocks = .ok body ∧
      (blocks ≠ [] → body.Complete ∧
        ∃ rules, body.ipSecurityRestrictions = some rules ∧
          rules.length = (authoredRules v).length ∧
          ∀ (i : Nat) (entry : Value), (authoredRules v)[i]? = some entry →
            ∃ sent, rules[i]? = some sent ∧ sent.SentFor entry) := by
  rcases decode_cases h with rfl | ⟨block, one, rfl, hone, hv⟩
  · exact ⟨serviceDefaults, rfl, fun hne => absurd rfl hne⟩
  · have hauthored : authoredRules v = authoredRules one := by
      rcases hv with rfl | rfl
      · rfl
      · exact authoredRules_list hone
    have hvalid := valid_of_decodeOne hone
    obtain ⟨path, hread⟩ := traverse_authoredRules hone
    obtain ⟨rules, mode, scm, ftps, tls, hrules, hexpand, hscm⟩ := exists_expand_eq_ok hvalid
    refine ⟨_, hexpand, fun _ => ⟨complete_bodyWith hvalid hscm .., rules, rfl, ?_⟩⟩
    rw [hauthored]
    exact sentFor_of_traverse hread hrules

/-- The body for the sample document, with one access rule for each of its three entries. -/
theorem complete_sampleDocument :
    ∃ body, expandFirst [sampleBlock] = .ok body ∧ body.Complete ∧
      ∃ rules, body.ipSecurityRestrictions = some rules ∧ rules.length = 3 := by
  obtain ⟨body, hbody, hstates⟩ := expandFirst_of_decode decode_sampleDocument
  obtain ⟨hcomplete, rules, hrules, hlength, -⟩ := hstates (List.cons_ne_nil _ _)
  exact ⟨body, hbody, hcomplete, rules, hrules, hlength⟩

end Block

end SiteConfig
