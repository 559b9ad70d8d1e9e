import CBrain.Knowledge.Graph
import CBrain.Framework.WalkSearch

/-! # What `bounded_walk` returns

    `bounded_walk` is given the visible nodes and, for each key, the edges that
    leave it.  Its paths are shortest simple paths, at most `max_nodes` for
    each entry of the seed list, and every node within reach of a seed is the
    end of one where the limit on nodes allows it. -/

namespace CBrain.Knowledge

/-- The graph that `bounded_walk` searches: the edges of a key are tried in the
    order of their ids. -/
def adjacencyGraph (visible_nodes : RequiredText → Option GraphNode)
    (adjacency : RequiredText → List GraphEdge) : VisibleGraph where
  node := visible_nodes
  edges k := (adjacency k).sortBy GraphEdge.edge_id
  target := GraphEdge.target_node_id

variable {g : VisibleGraph} {seeds : List RequiredText} {max_depth max_nodes : Nat}
  {citations_for : List GraphNode → List Citation}

/-- A path is the record of a trail from one of the seeds. -/
theorem mem_boundedWalk {path : GraphPath}
    (h : path ∈ boundedWalk g seeds max_depth max_nodes citations_for) :
    ∃ seed ∈ seeds, ∃ t ∈ g.walkFrom max_depth max_nodes seed,
      path.nodes = t.nodes ∧ path.edges = t.edges := by
  obtain ⟨seed, hseed, hpath⟩ := List.mem_flatMap.mp h
  obtain ⟨t, ht, hsome⟩ := List.mem_filterMap.mp hpath
  refine ⟨seed, hseed, t, ht, ?_⟩
  unfold pathOf at hsome
  by_cases hnodes : t.nodes ≠ []
  · rw [dif_pos hnodes] at hsome
    by_cases hcitations : citations_for t.nodes ≠ []
    · rw [dif_pos hcitations] at hsome
      obtain rfl := Option.some.inj hsome
      exact ⟨rfl, rfl⟩
    · rw [dif_neg hcitations] at hsome
      cases hsome
  · rw [dif_neg hnodes] at hsome
    cases hsome

/-- A trail with citations is returned as a path. -/
theorem boundedWalk_of_trail (hcites : ∀ nodes, nodes ≠ [] → citations_for nodes ≠ [])
    {seed : RequiredText} (hseed : seed ∈ seeds) {t : Trail RequiredText GraphNode GraphEdge}
    (ht : t ∈ g.walkFrom max_depth max_nodes seed) :
    ∃ path ∈ boundedWalk g seeds max_depth max_nodes citations_for,
      path.nodes = t.nodes ∧ path.edges = t.edges := by
  have hnodes : t.nodes ≠ [] := (WalkGraph.nodes_of_walk ht).1
  refine ⟨⟨t.nodes, t.edges, citations_for t.nodes, hnodes, hcites _ hnodes⟩, ?_, rfl, rfl⟩
  refine List.mem_flatMap.mpr ⟨seed, hseed, List.mem_filterMap.mpr ⟨t, ht, ?_⟩⟩
  unfold pathOf
  rw [dif_pos hnodes, dif_pos (hcites _ hnodes)]

theorem boundedWalk_append (first second : List RequiredText) :
    boundedWalk g (first ++ second) max_depth max_nodes citations_for =
      boundedWalk g first max_depth max_nodes citations_for ++
        boundedWalk g second max_depth max_nodes citations_for :=
  List.flatMap_append

theorem length_boundedWalk_singleton (seed : RequiredText) :
    (boundedWalk g [seed] max_depth max_nodes citations_for).length ≤ max_nodes := by
  have hone : boundedWalk g [seed] max_depth max_nodes citations_for =
      (g.walkFrom max_depth max_nodes seed).filterMap (pathOf citations_for) :=
    List.flatMap_singleton _ seed
  rw [hone]
  exact (List.length_filterMap_le _ _).trans (WalkGraph.length_walkFrom_le max_nodes seed)

/-- **Bounded walks**: every path is simple, starts at a seed, follows edges
    between visible nodes, has at most `max_depth` of them, and no way to its
    end is shorter; each entry of the seed list accounts for at most
    `max_nodes` paths; and where everything is cited, each node within reach of
    a seed is the end of a path from it, if at most `max_nodes` are in reach. -/
theorem boundedWalk_shortest_paths (visible_nodes : RequiredText → Option GraphNode)
    (adjacency : RequiredText → List GraphEdge) (seed_node_ids : List RequiredText)
    (max_depth max_nodes : Nat) (citations_for : List GraphNode → List Citation) :
    (∀ path ∈ boundedWalk (adjacencyGraph visible_nodes adjacency) seed_node_ids max_depth max_nodes
        citations_for,
      ∃ seed ∈ seed_node_ids, ∃ keys node_id,
        (adjacencyGraph visible_nodes adjacency).IsPath seed keys path.nodes path.edges ∧
        keys.getLast? = some node_id ∧ path.edges.length ≤ max_depth ∧
        ∀ d, (adjacencyGraph visible_nodes adjacency).Reaches seed d node_id →
          path.edges.length ≤ d) ∧
    (∀ before seed after, seed_node_ids = before ++ seed :: after →
      ∃ paths : List GraphPath, paths.length ≤ max_nodes ∧
        boundedWalk (adjacencyGraph visible_nodes adjacency) seed_node_ids max_depth max_nodes
            citations_for =
          boundedWalk (adjacencyGraph visible_nodes adjacency) before max_depth max_nodes
              citations_for ++ paths ++
            boundedWalk (adjacencyGraph visible_nodes adjacency) after max_depth max_nodes
              citations_for) ∧
    ((∀ nodes, nodes ≠ [] → citations_for nodes ≠ []) →
      ∀ seed ∈ seed_node_ids, ∀ reachable : Finset RequiredText,
        (∀ d k, d ≤ max_depth → (adjacencyGraph visible_nodes adjacency).Reaches seed d k →
          k ∈ reachable) →
        reachable.card ≤ max_nodes →
        ∀ d k, d ≤ max_depth → (adjacencyGraph visible_nodes adjacency).Reaches seed d k →
          ∃ path ∈ boundedWalk (adjacencyGraph visible_nodes adjacency) seed_node_ids max_depth
              max_nodes citations_for,
            ∃ keys, (adjacencyGraph visible_nodes adjacency).IsPath seed keys path.nodes path.edges ∧
              keys.getLast? = some k) := by
  refine ⟨?_, ?_, ?_⟩
  · intro path hpath
    obtain ⟨seed, hseed, t, ht, hnodes, hedges⟩ := mem_boundedWalk hpath
    obtain ⟨hdepth, keys, hleads⟩ := WalkGraph.leads_of_walkFrom ht
    refine ⟨seed, hseed, keys, t.node_id, ?_, hleads.ends, ?_, ?_⟩
    · rw [hnodes, hedges]
      exact hleads.toIsPath
    · rw [hedges, hleads.depth]
      exact hdepth
    · intro d hd
      rw [hedges, hleads.depth]
      exact (WalkGraph.least_of_walkFrom ht).2 d hd
  · intro before seed after hsplit
    refine ⟨boundedWalk (adjacencyGraph visible_nodes adjacency) [seed] max_depth max_nodes
      citations_for, length_boundedWalk_singleton seed, ?_⟩
    rw [hsplit, ← List.singleton_append, boundedWalk_append, boundedWalk_append, List.append_assoc]
  · intro hcites seed hseed reachable hreach hcard d k hd hk
    obtain ⟨t, ht, hid⟩ := WalkGraph.walkFrom_complete hreach hcard hd hk
    obtain ⟨-, keys, hleads⟩ := WalkGraph.leads_of_walkFrom ht
    obtain ⟨path, hpath, hnodes, hedges⟩ := boundedWalk_of_trail hcites hseed ht
    refine ⟨path, hpath, keys, ?_, hid ▸ hleads.ends⟩
    rw [hnodes, hedges]
    exact hleads.toIsPath

end CBrain.Knowledge
