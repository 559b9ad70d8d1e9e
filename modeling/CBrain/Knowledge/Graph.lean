import CBrain.Framework.Ranking
import CBrain.Framework.Walk
import CBrain.Knowledge.Chunking
import Mathlib.Data.Prod.Lex
import Mathlib.Order.OrderDual
import Mathlib.Data.String.Basic

/-! # Fusion of rankings and walks over the graph

    Models `cbrain/knowledge/fusion.py` and `bounded_walk` of
    `cbrain/knowledge/graph.py`.

    Scores are numbers of an arbitrary linearly ordered type: no rounding and
    no law of addition is assumed. -/

namespace CBrain.Knowledge

/-! ## Section 1: Reciprocal rank fusion -/

/-- What the code does with scores. -/
class Score (F : Type) extends LinearOrder F, Add F, Zero F, One F where
  /-- `1.0 / n`. -/
  reciprocal : Nat → F
  /-- `float(n)`. -/
  ofCount : Nat → F

/-- Exact scores. -/
scoped instance : Score ℚ where
  reciprocal n := 1 / n
  ofCount n := n

variable {F : Type} [Score F]

/-- The key `(-score, id)`. -/
def rankKey (item : String × F) : Fᵒᵈ ×ₗ String := toLex (OrderDual.toDual item.2, item.1)

/-- `RRF_K`. -/
def rrfK : Nat := 60

/-- Add the scores of one ranked list, from a rank on. -/
def addRanked : Table String F → Nat → List String → Table String F
  | scores, _, [] => scores
  | scores, rank, item :: items =>
    let score := (scores.get? item).getD 0 + Score.reciprocal (rrfK + rank)
    addRanked (scores.set item score) (rank + 1) items

/-- `reciprocal_rank_fusion`. -/
def reciprocalRankFusion (ranked_lists : List (List String)) : List (String × F) :=
  (ranked_lists.foldl (fun scores ranked => addRanked scores 1 ranked) Table.empty).rows.sortBy
    rankKey

/-! ## Section 2: Citations of the nodes of a path -/

/-- The chunks of some ids, each at its first mention only; ids that `find` does
    not know are passed over. -/
def citedChunks (find : String → Option KnowledgeChunk) :
    List String → List String → List KnowledgeChunk
  | _, [] => []
  | seen, chunk_id :: chunk_ids =>
    match find chunk_id with
    | none => citedChunks find seen chunk_ids
    | some chunk =>
      if chunk_id ∈ seen then citedChunks find seen chunk_ids
      else chunk :: citedChunks find (chunk_id :: seen) chunk_ids

/-- The ids a path's nodes mention, in order. -/
def provenanceIds (nodes : List GraphNode) : List String :=
  nodes.flatMap fun node => node.provenance_chunk_ids.map Subtype.val

/-- The citations of a path's nodes. -/
def citationsForNodes (find : String → Option KnowledgeChunk) (nodes : List GraphNode) :
    List Citation :=
  (citedChunks find [] (provenanceIds nodes)).map KnowledgeChunk.citation

theorem mem_citedChunks {find : String → Option KnowledgeChunk} {seen chunk_ids : List String}
    {chunk : KnowledgeChunk} (h : chunk ∈ citedChunks find seen chunk_ids) :
    ∃ chunk_id ∈ chunk_ids, find chunk_id = some chunk := by
  induction chunk_ids generalizing seen with
  | nil => cases h
  | cons chunk_id chunk_ids ih =>
    have hrest {seen' : List String} (hmem : chunk ∈ citedChunks find seen' chunk_ids) :
        ∃ id ∈ chunk_id :: chunk_ids, find id = some chunk := by
      obtain ⟨id, hid, hfind⟩ := ih hmem
      exact ⟨id, List.mem_cons_of_mem _ hid, hfind⟩
    rw [citedChunks] at h
    match hfind : find chunk_id with
    | none =>
      simp only [hfind] at h
      exact hrest h
    | some c =>
      simp only [hfind] at h
      by_cases hseen : chunk_id ∈ seen
      · rw [if_pos hseen] at h
        exact hrest h
      · rw [if_neg hseen] at h
        rcases List.mem_cons.mp h with rfl | hlater
        · exact ⟨chunk_id, List.mem_cons_self, hfind⟩
        · exact hrest hlater

/-- An id that can be found is cited, unless it was before. -/
theorem mem_citedChunks_of_find {find : String → Option KnowledgeChunk}
    {seen chunk_ids : List String} {chunk_id : String} {chunk : KnowledgeChunk}
    (hmem : chunk_id ∈ chunk_ids) (hfind : find chunk_id = some chunk) (hseen : chunk_id ∉ seen) :
    chunk ∈ citedChunks find seen chunk_ids := by
  induction chunk_ids generalizing seen with
  | nil => cases hmem
  | cons id chunk_ids ih =>
    rw [citedChunks]
    by_cases hid : chunk_id = id
    · subst hid
      simp [hfind, hseen]
    · have hlater : chunk_id ∈ chunk_ids := (List.mem_cons.mp hmem).resolve_left hid
      match find id with
      | none => exact ih hlater hseen
      | some c =>
        by_cases hidseen : id ∈ seen
        · simp only [if_pos hidseen]
          exact ih hlater hseen
        · simp only [if_neg hidseen]
          apply List.mem_cons_of_mem
          apply ih hlater
          intro hmem'
          rcases List.mem_cons.mp hmem' with heq | hold
          · exact hid heq
          · exact hseen hold

/-- Ids that cannot be found do not matter. -/
theorem citedChunks_filter (find : String → Option KnowledgeChunk) (seen chunk_ids : List String) :
    citedChunks find seen (chunk_ids.filter fun id => (find id).isSome) =
      citedChunks find seen chunk_ids := by
  induction chunk_ids generalizing seen with
  | nil => rfl
  | cons chunk_id chunk_ids ih =>
    cases hfind : find chunk_id with
    | none =>
      rw [List.filter_cons_of_neg (by simp [hfind]), ih, citedChunks, hfind]
    | some chunk =>
      rw [List.filter_cons_of_pos (by simp [hfind]), citedChunks, citedChunks, hfind]
      simp only [ih]

/-! ## Section 3: Bounded walks -/

/-- The nodes a principal may see, and the edges between them. -/
abbrev VisibleGraph : Type := WalkGraph RequiredText GraphNode GraphEdge

/-- A visited node as a path, if anything supports it. -/
def pathOf (citations_for : List GraphNode → List Citation)
    (t : Trail RequiredText GraphNode GraphEdge) : Option GraphPath :=
  if hnodes : t.nodes ≠ [] then
    if hcitations : citations_for t.nodes ≠ [] then
      some ⟨t.nodes, t.edges, citations_for t.nodes, hnodes, hcitations⟩
    else none
  else none

/-- `bounded_walk`. -/
def boundedWalk (g : VisibleGraph) (seed_node_ids : List RequiredText)
    (max_depth max_nodes : Nat) (citations_for : List GraphNode → List Citation) :
    List GraphPath :=
  seed_node_ids.flatMap fun seed =>
    (g.walkFrom max_depth max_nodes seed).filterMap (pathOf citations_for)

/-- The graph of some visible nodes and the edges to follow between them.
    Edges are tried in the order of their ids. -/
def visibleGraph (node : RequiredText → Option GraphNode) (edges : List GraphEdge) :
    VisibleGraph where
  node := node
  edges k := (edges.filter fun edge => edge.source_node_id = k ∧
    (node edge.source_node_id).isSome ∧ (node edge.target_node_id).isSome).sortBy
      GraphEdge.edge_id
  target := GraphEdge.target_node_id

variable {g : VisibleGraph} {seeds : List RequiredText} {max_depth max_nodes : Nat}
  {citations_for : List GraphNode → List Citation}

theorem pathOf_eq_some {t : Trail RequiredText GraphNode GraphEdge} {path : GraphPath}
    (h : pathOf citations_for t = some path) :
    path.nodes = t.nodes ∧ path.citations = citations_for t.nodes := by
  unfold pathOf at h
  by_cases hnodes : t.nodes ≠ []
  · rw [dif_pos hnodes] at h
    by_cases hcitations : citations_for t.nodes ≠ []
    · rw [dif_pos hcitations] at h
      obtain rfl := Option.some.inj h
      exact ⟨rfl, rfl⟩
    · rw [dif_neg hcitations] at h
      cases h
  · rw [dif_neg hnodes] at h
    cases h

/-- A path of the walk cites what its nodes cite, and these are visible. -/
theorem boundedWalk_path {path : GraphPath}
    (h : path ∈ boundedWalk g seeds max_depth max_nodes citations_for) :
    path.citations = citations_for path.nodes ∧ ∀ n ∈ path.nodes, ∃ k, g.node k = some n := by
  unfold boundedWalk at h
  obtain ⟨seed, -, hpath⟩ := List.mem_flatMap.mp h
  obtain ⟨t, ht, hsome⟩ := List.mem_filterMap.mp hpath
  obtain ⟨hnodes, hcitations⟩ := pathOf_eq_some hsome
  constructor
  · rw [hcitations, hnodes]
  · rw [hnodes]
    exact (WalkGraph.nodes_of_walk ht).2

/-- From a visible seed the walk returns the path of the seed alone. -/
theorem boundedWalk_seed {seed : RequiredText} {n : GraphNode} (hseed : g.node seed = some n)
    (hpos : 0 < max_nodes) (hcites : citations_for [n] ≠ []) :
    ∃ path ∈ boundedWalk g [seed] max_depth max_nodes citations_for,
      path.citations = citations_for [n] := by
  obtain ⟨later, hwalk⟩ := WalkGraph.walkFrom_seed max_depth hseed hpos
  have hpath : pathOf citations_for ⟨seed, 0, [n], []⟩ =
      some ⟨[n], [], citations_for [n], List.cons_ne_nil n [], hcites⟩ := by
    unfold pathOf
    rw [dif_pos (List.cons_ne_nil n []), dif_pos hcites]
  refine ⟨⟨[n], [], citations_for [n], List.cons_ne_nil n [], hcites⟩, ?_, rfl⟩
  unfold boundedWalk
  simp only [List.flatMap_cons, List.flatMap_nil, List.append_nil, hwalk, List.filterMap_cons,
    hpath]
  exact List.mem_cons_self

/-- All citations of a walk, in order. -/
theorem boundedWalk_citations :
    (boundedWalk g seeds max_depth max_nodes citations_for).flatMap GraphPath.citations =
      seeds.flatMap fun seed =>
        (g.walkFrom max_depth max_nodes seed).flatMap fun t =>
          if t.nodes = [] then [] else citations_for t.nodes := by
  unfold boundedWalk
  rw [List.flatMap_assoc]
  congr 1
  funext seed
  induction g.walkFrom max_depth max_nodes seed with
  | nil => rfl
  | cons t ts ih =>
    rw [List.flatMap_cons, ← ih, List.filterMap_cons]
    unfold pathOf
    by_cases hnodes : t.nodes = []
    · simp [hnodes]
    · by_cases hcitations : citations_for t.nodes = []
      · simp [hnodes, hcitations]
      · simp [hnodes, hcitations]

end CBrain.Knowledge
