/-
No reader finds the domains of a run.

`finalize_node` writes four keys into the trace, and the domains are under none of them.  Each of
the three readers asks for a key that is not there and takes the answer for an empty one: the
anonymization lists no domains, the fan-out node shows none, and the filter of the research list is
left with the complexity tier.
-/
import GaiaOS.Proofs.Anonymization
import GaiaOS.Db.ResearchInvestigations
import GaiaOS.Explainability.TraceTransformer
import GaiaOS.Proofs.ReplanLoop

namespace GaiaOS

namespace DomainReaders

open Anonymization TraceTransformer

variable (rt : TextRuntime) (title : String → String) (collation : Collation)

/-- Every reader recovers the domains from a stored investigation. -/
structure DomainsSurvive (domains : List String) (row : Investigation) : Prop where
  extracted : extractDomainsInvolved rt row.traceJson = .ok domains
  fanOut : ∃ node ∈ transformExecutionTrace rt title row.status row.traceJson,
    node.details.get? "raw_item" = some (.str "fan_out") ∧
      node.details.get? "domains" = some (.arr (domains.map .str))
  listed : ∀ domain ∈ domains, ∀ rows, row ∈ rows →
    row ∈ listResearchInvestigations collation rows (some domain) none rows.length 0

section Readers

variable {rt title collation}

theorem extract_executionTrace (trace : ExecutionTrace) :
    extractDomainsInvolved rt trace.toJson = .ok [] := rfl

theorem classifyNode_str (s : String) : (classifyNode rt title (.str s)).2.2.2 = [] := by
  unfold classifyNode
  dsimp only
  split
  · rfl
  · split_ifs
    all_goals rfl

theorem get?_set_of_ne {details : Dict String Json} {key : String} {value : Json}
    (hkey : key ≠ "domains") (h : details.get? "domains" = none) :
    (details.set key value).get? "domains" = none := by
  rw [Dict.get?_set_of_ne _ hkey, h]

/-- No kind of node shows domains that the trace does not have. -/
theorem ofKind_domains {r : Reading} (hdomains : get r.rawTrace "domains" = .null)
    (hmatched : get r.rawTrace "matched_domains" = .null) (nodeItem : Json) (taxType : String)
    {details : Dict String Json} (h : details.get? "domains" = none) :
    (r.ofKind rt nodeItem taxType details).2.get? "domains" = none := by
  unfold Reading.ofKind
  dsimp only
  rw [hdomains, hmatched]
  split_ifs with hcritic hfanOut htruthy
  · exact get?_set_of_ne (by decide) h
  · cases htruthy
  · exact h
  · exact get?_set_of_ne (by decide) (get?_set_of_ne (by decide) h)
  · exact get?_set_of_ne (by decide) h
  · exact h

/-- A trace without domains, without collaboration and with nothing of its own. -/
structure Bare (r : Reading) : Prop where
  domains : get r.rawTrace "domains" = .null
  matchedDomains : get r.rawTrace "matched_domains" = .null
  extraPluginMetadata : r.extraPluginMetadata = []
  collaboration : r.collaboration = []
  nodesExecuted : ∀ nodeItem ∈ r.nodesExecuted, ∃ name, nodeItem = .str name

theorem bare_executionTrace (status : String) (trace : ExecutionTrace) :
    Bare (Reading.of status trace.toJson) where
  domains := rfl
  matchedDomains := rfl
  extraPluginMetadata := rfl
  collaboration := rfl
  nodesExecuted nodeItem h := by
    obtain ⟨name, -, rfl⟩ := List.mem_map.mp h
    exact ⟨name, rfl⟩

theorem Bare.withPluginContext {r : Reading} (h : Bare r) (details : Dict String Json) :
    r.withPluginContext details = details := by
  unfold Reading.withPluginContext
  rw [h.extraPluginMetadata]
  rfl

theorem nodeOf_domains {r : Reading} (h : Bare r) {entry : Json × Nat}
    (hentry : ∃ name, entry.1 = .str name) :
    (r.nodeOf rt title entry).details.get? "domains" = none := by
  obtain ⟨nodeItem, idx⟩ := entry
  obtain ⟨name, rfl⟩ : ∃ name, nodeItem = .str name := hentry
  have hdetails : ∀ taxType, (r.ofKind rt (.str name) taxType (r.withPluginContext
      (Dict.empty.set "raw_item" (.str name)))).2.get? "domains" = none := by
    intro taxType
    refine ofKind_domains h.domains h.matchedDomains _ _ ?_
    rw [h.withPluginContext]
    exact get?_set_of_ne (by decide) rfl
  unfold Reading.nodeOf
  dsimp only
  rw [classifyNode_str]
  split_ifs
  · exact get?_set_of_ne (by decide) (hdetails _)
  · exact hdetails _

/-- No node shows domains. -/
theorem nodes_domains {r : Reading} (h : Bare r) :
    ∀ node ∈ r.nodes rt title, node.details.get? "domains" = none := by
  have hexecuted : ∀ node ∈ (if r.nodesExecuted.isEmpty then [r.startNode rt]
      else r.nodesExecuted.zipIdx.map (r.nodeOf rt title)),
      node.details.get? "domains" = none := by
    intro node hnode
    split_ifs at hnode
    · obtain rfl := List.mem_singleton.mp hnode
      unfold Reading.startNode
      dsimp only
      rw [h.withPluginContext]
      split_ifs
      · exact get?_set_of_ne (by decide) rfl
      · exact get?_set_of_ne (by decide) rfl
    · obtain ⟨entry, hentry, rfl⟩ := List.mem_map.mp hnode
      exact nodeOf_domains h (h.nodesExecuted _ (List.fst_mem_of_mem_zipIdx hentry))
  intro node hnode
  unfold Reading.nodes at hnode
  dsimp only at hnode
  rw [h.collaboration, List.zipIdx_nil, List.map_nil, List.append_nil] at hnode
  generalize (if r.nodesExecuted.isEmpty then [r.startNode rt]
    else r.nodesExecuted.zipIdx.map (r.nodeOf rt title)) = executed at hnode hexecuted
  split_ifs at hnode
  · rcases List.mem_append.mp hnode with hnode | hnode
    · exact hexecuted node hnode
    · obtain rfl := List.mem_singleton.mp hnode
      exact get?_set_of_ne (by decide) rfl
  · exact hexecuted node hnode

/-- The filter by a domain is left with the complexity tier. -/
theorem matchesDomain_executionTrace {row : Investigation} {trace : ExecutionTrace}
    (h : row.executionTrace = some (.execution trace)) (domain : String) :
    matchesDomain collation domain row =
      ilike collation row.complexityTier ("%" ++ domain ++ "%") := by
  have htext : textOf collation row.traceJson "domains" = none := by
    unfold Investigation.traceJson
    rw [h]
    rfl
  unfold matchesDomain
  rw [htext]
  rfl

/-- What finalize stores is read by nobody as domains. -/
theorem not_survive {domains : List String} (hne : domains ≠ []) {row : Investigation}
    {trace : ExecutionTrace} (h : row.executionTrace = some (.execution trace)) :
    ¬ DomainsSurvive rt title collation domains row := by
  intro hsurvive
  have hextracted := hsurvive.extracted
  unfold Investigation.traceJson at hextracted
  rw [h] at hextracted
  exact hne (Except.ok.inj hextracted).symm

end Readers

/-- **The domains of a run never survive to the readers.**  For every run of the compiled graph that
has matched domains, whatever it sends to the database, stored in any row: the anonymization
extracts no domains, no node of the transformed trace shows any, the research list filtered by a
domain depends on the complexity tier alone, and so the readers never recover the domains of the
run. -/
theorem domains_never_survive (sv : Services) (s₀ : TaskGraphState) (n : Nat)
    (hmatched : (GraphRun.advance sv n (.start s₀)).state.matchedDomains.getD [] ≠ []) :
    ∀ u ∈ (GraphRun.advance sv n (.start s₀)).statusUpdates, ∀ (now : Int) (row : Investigation),
      let stored := updateInvestigationStatus now u.fields row
      extractDomainsInvolved rt stored.traceJson = .ok [] ∧
        (∀ node ∈ transformExecutionTrace rt title stored.status stored.traceJson,
          node.details.get? "domains" = none) ∧
        (∀ domain, matchesDomain collation domain stored =
          ilike collation (some u.complexityTier) ("%" ++ domain ++ "%")) ∧
        ¬ DomainsSurvive rt title collation
          ((GraphRun.advance sv n (.start s₀)).state.matchedDomains.getD []) stored := by
  intro u _ now row
  have htrace : (updateInvestigationStatus now u.fields row).executionTrace =
      some (.execution u.executionTrace) := rfl
  refine ⟨extract_executionTrace u.executionTrace, ?_, ?_, not_survive hmatched htrace⟩
  · exact nodes_domains (bare_executionTrace _ u.executionTrace)
  · exact matchesDomain_executionTrace htrace

/-- Letters compared by their ASCII case. -/
def asciiCollation : Collation := ⟨fun c d => c.toLower == d.toLower, fun _ => ""⟩

/-- The run about one domain without a conflict. -/
def seismicRun : GraphRun := GraphRun.advance (conflictServices 0) 12 (.start jobState)

/-- The row the run is for, before it ends. -/
def seismicRow : Investigation where
  id := jobState.investigationId
  userId := none
  queryText := jobState.query
  createdAt := 0

theorem seismicRun_matched : seismicRun.state.matchedDomains = some ["seismic"] := rfl

theorem seismicRun_never_survives :
    seismicRun.state.matchedDomains = some ["seismic"] ∧
      ∀ u ∈ seismicRun.statusUpdates,
        extractDomainsInvolved asciiRuntime
          (updateInvestigationStatus 0 u.fields seismicRow).traceJson = .ok [] := by
  have hmatched : seismicRun.state.matchedDomains.getD [] ≠ [] := by
    rw [seismicRun_matched]
    exact List.cons_ne_nil _ _
  refine ⟨seismicRun_matched, fun u hu => ?_⟩
  exact (domains_never_survive asciiRuntime id asciiCollation (conflictServices 0) jobState 12
    hmatched u hu 0 seismicRow).1

/-- A run on the domain "seismic" that completes and is stored: none of the readers shows the
domain, and the list filtered by it does not include the investigation. -/
theorem seismic_domain_lost :
    ∃ u ∈ seismicRun.statusUpdates,
      seismicRun.state.matchedDomains = some ["seismic"] ∧
        matchesDomain asciiCollation "seismic"
          (updateInvestigationStatus 0 u.fields seismicRow) = false ∧
        ¬ DomainsSurvive asciiRuntime id asciiCollation ["seismic"]
          (updateInvestigationStatus 0 u.fields seismicRow) := by
  refine ⟨finalizeUpdate (conflictServices 0)
    (GraphRun.advance (conflictServices 0) 4 (.start jobState)).state, List.mem_singleton.mpr rfl,
    rfl, ?_, ?_⟩
  · rw [matchesDomain_executionTrace rfl]
    decide +kernel
  · exact not_survive (List.cons_ne_nil _ _) rfl

end DomainReaders

end GaiaOS
