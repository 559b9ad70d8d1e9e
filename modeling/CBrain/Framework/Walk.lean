import Mathlib.Data.List.Basic

/-! # Bounded breadth-first walks

    A walk from one node of a graph visits at most a given number of nodes,
    none of them twice and none further away than a given number of edges.
    It records for each visited node the trail that led there.

    * `nodes_of_walk` : every node of every trail is a node of the graph.
    * `walk_map`      : a walk sees of a node what its trails are mapped to.
-/

/-- A graph whose nodes are looked up by key, with the edges that leave each
    key in the order in which a walk tries them. -/
structure WalkGraph (K N E : Type) where
  node : K → Option N
  edges : K → List E
  target : E → K

/-- How a walk came to a node: the nodes and edges on the way, the node itself
    last. -/
structure Trail (K N E : Type) where
  node_id : K
  depth : Nat
  nodes : List N
  edges : List E

namespace WalkGraph

variable {K N E : Type} [DecidableEq K]

/-- The trails of one edge further, over the edges whose target is a node not
    yet visited. -/
def extend (g : WalkGraph K N E) (visited : List K) (t : Trail K N E) : List (Trail K N E) :=
  (g.edges t.node_id).filterMap fun e =>
    if g.target e ∈ visited then none
    else (g.node (g.target e)).map fun n =>
      ⟨g.target e, t.depth + 1, t.nodes ++ [n], t.edges ++ [e]⟩

/-- What a visited trail adds to the queue: no edge is followed from the deepest
    nodes, nor after the last visit. -/
def next (g : WalkGraph K N E) (max_depth remaining : Nat) (visited : List K)
    (t : Trail K N E) : List (Trail K N E) :=
  if t.depth < max_depth ∧ 0 < remaining then g.extend (t.node_id :: visited) t else []

/-- The trail leads to a node already visited. -/
def seen (visited : List K) (t : Trail K N E) : Bool := decide (t.node_id ∈ visited)

/-- The trails a walk visits, in order.  Each visit uses up one of `remaining`;
    what stands in the queue for a visited node is skipped. -/
def walk (g : WalkGraph K N E) (max_depth : Nat) :
    Nat → List K → List (Trail K N E) → List (Trail K N E)
  | 0, _, _ => []
  | remaining + 1, visited, queue =>
    match queue.dropWhile (seen visited) with
    | [] => []
    | t :: rest =>
      t :: walk g max_depth remaining (t.node_id :: visited)
        (rest ++ g.next max_depth remaining visited t)

/-- The walk from one node. -/
def walkFrom (g : WalkGraph K N E) (max_depth max_nodes : Nat) (seed : K) :
    List (Trail K N E) :=
  match g.node seed with
  | none => []
  | some n => g.walk max_depth max_nodes [] [⟨seed, 0, [n], []⟩]

variable {g : WalkGraph K N E} {max_depth : Nat}

theorem walk_stop {remaining : Nat} {visited : List K} {queue : List (Trail K N E)}
    (h : queue.dropWhile (seen visited) = []) :
    g.walk max_depth (remaining + 1) visited queue = [] := by
  rw [walk, h]

theorem walk_visit {remaining : Nat} {visited : List K} {queue rest : List (Trail K N E)}
    {t : Trail K N E} (h : queue.dropWhile (seen visited) = t :: rest) :
    g.walk max_depth (remaining + 1) visited queue =
      t :: g.walk max_depth remaining (t.node_id :: visited)
        (rest ++ g.next max_depth remaining visited t) := by
  rw [walk, h]

/-! ## Every trail runs through the graph -/

/-- The nodes of a trail are nodes of the graph. -/
def Within (g : WalkGraph K N E) (t : Trail K N E) : Prop :=
  t.nodes ≠ [] ∧ ∀ n ∈ t.nodes, ∃ k, g.node k = some n

theorem within_extend {visited : List K} {t u : Trail K N E} (ht : g.Within t)
    (hu : u ∈ g.extend visited t) : g.Within u := by
  unfold extend at hu
  obtain ⟨e, -, he⟩ := List.mem_filterMap.mp hu
  by_cases hvisited : g.target e ∈ visited
  · rw [if_pos hvisited] at he
    cases he
  · rw [if_neg hvisited, Option.map_eq_some_iff] at he
    obtain ⟨n, hn, rfl⟩ := he
    constructor
    · simp
    · intro m hm
      rcases List.mem_append.mp hm with hold | hnew
      · exact ht.2 m hold
      · rw [List.mem_singleton.mp hnew]
        exact ⟨_, hn⟩

theorem within_next {remaining : Nat} {visited : List K} {t u : Trail K N E} (ht : g.Within t)
    (hu : u ∈ g.next max_depth remaining visited t) : g.Within u := by
  unfold next at hu
  by_cases hdepth : t.depth < max_depth ∧ 0 < remaining
  · rw [if_pos hdepth] at hu
    exact within_extend ht hu
  · rw [if_neg hdepth] at hu
    cases hu

/-- Induction on the visits left; the queue holds trails within the graph. -/
theorem within_walk {remaining : Nat} {visited : List K} {queue : List (Trail K N E)}
    (hqueue : ∀ t ∈ queue, g.Within t) :
    ∀ t ∈ g.walk max_depth remaining visited queue, g.Within t := by
  induction remaining generalizing visited queue with
  | zero =>
    intro t ht
    cases ht
  | succ remaining ih =>
    have hkept : ∀ t ∈ queue.dropWhile (seen visited), g.Within t :=
      fun t ht => hqueue t ((List.dropWhile_suffix _).subset ht)
    cases hdrop : queue.dropWhile (seen visited) with
    | nil =>
      rw [walk_stop hdrop]
      intro t ht
      cases ht
    | cons u rest =>
      rw [walk_visit hdrop]
      rw [hdrop] at hkept
      have hu : g.Within u := hkept u List.mem_cons_self
      intro t ht
      rcases List.mem_cons.mp ht with rfl | hlater
      · exact hu
      · apply ih _ t hlater
        intro w hw
        rcases List.mem_append.mp hw with hrest | hnext
        · exact hkept w (List.mem_cons_of_mem u hrest)
        · exact within_next hu hnext

/-- **Confinement**: a walk stays within the graph. -/
theorem nodes_of_walk {max_nodes : Nat} {seed : K} {t : Trail K N E}
    (ht : t ∈ g.walkFrom max_depth max_nodes seed) : g.Within t := by
  unfold walkFrom at ht
  match hseed : g.node seed with
  | none =>
    rw [hseed] at ht
    cases ht
  | some n =>
    rw [hseed] at ht
    apply within_walk _ t ht
    intro u hu
    rw [List.mem_singleton.mp hu]
    refine ⟨by simp, ?_⟩
    intro m hm
    rw [List.mem_singleton.mp hm]
    exact ⟨seed, hseed⟩

/-- A walk visits its seed first. -/
theorem walkFrom_seed (max_depth : Nat) {max_nodes : Nat} {seed : K} {n : N} (hseed : g.node seed = some n)
    (hpos : 0 < max_nodes) :
    ∃ later, g.walkFrom max_depth max_nodes seed = ⟨seed, 0, [n], []⟩ :: later := by
  obtain ⟨remaining, rfl⟩ : ∃ k, max_nodes = k + 1 := ⟨max_nodes - 1, by omega⟩
  unfold walkFrom
  rw [hseed]
  simp only [walk]
  exact ⟨_, rfl⟩

/-! ## What a walk sees of a node -/

variable {N' E' : Type}

/-- A trail with its nodes and edges replaced. -/
def mapTrail (f : N → N') (h : E → E') (t : Trail K N E) : Trail K N' E' :=
  ⟨t.node_id, t.depth, t.nodes.map f, t.edges.map h⟩

/-- A graph whose nodes and edges are the images of another's. -/
structure IsImage (f : N → N') (h : E → E') (g : WalkGraph K N E) (g' : WalkGraph K N' E') :
    Prop where
  node : ∀ k, g'.node k = (g.node k).map f
  edges : ∀ k, g'.edges k = (g.edges k).map h
  target : ∀ e, g'.target (h e) = g.target e

variable {f : N → N'} {h : E → E'} {g' : WalkGraph K N' E'}

theorem IsImage.extend (himage : IsImage f h g g') (visited : List K) (t : Trail K N E) :
    g'.extend visited (mapTrail f h t) = (g.extend visited t).map (mapTrail f h) := by
  unfold WalkGraph.extend
  have hid : (mapTrail f h t).node_id = t.node_id := rfl
  rw [hid, himage.edges, List.filterMap_map, List.map_filterMap]
  apply List.filterMap_congr
  intro e _
  simp only [Function.comp_apply, himage.target, himage.node]
  by_cases hvisited : g.target e ∈ visited
  · simp [hvisited]
  · simp [hvisited, mapTrail, Function.comp_def]

theorem IsImage.next (himage : IsImage f h g g') (remaining : Nat) (visited : List K)
    (t : Trail K N E) :
    g'.next max_depth remaining visited (mapTrail f h t) =
      (g.next max_depth remaining visited t).map (mapTrail f h) := by
  have hextend := himage.extend (t.node_id :: visited) t
  unfold WalkGraph.next
  show (if t.depth < max_depth ∧ 0 < remaining then
      g'.extend (t.node_id :: visited) (mapTrail f h t) else []) = _
  by_cases hdepth : t.depth < max_depth ∧ 0 < remaining
  · rw [if_pos hdepth, if_pos hdepth, hextend]
  · rw [if_neg hdepth, if_neg hdepth]
    rfl

theorem dropWhile_mapTrail (visited : List K) (queue : List (Trail K N E)) :
    (queue.map (mapTrail f h)).dropWhile (seen visited) =
      (queue.dropWhile (seen visited)).map (mapTrail f h) := by
  rw [List.dropWhile_map]
  rfl

theorem IsImage.walk (himage : IsImage f h g g') (remaining : Nat) (visited : List K)
    (queue : List (Trail K N E)) :
    g'.walk max_depth remaining visited (queue.map (mapTrail f h)) =
      (g.walk max_depth remaining visited queue).map (mapTrail f h) := by
  induction remaining generalizing visited queue with
  | zero => rfl
  | succ remaining ih =>
    have hdropped := dropWhile_mapTrail (f := f) (h := h) visited queue
    cases hdrop : queue.dropWhile (seen visited) with
    | nil =>
      rw [hdrop] at hdropped
      rw [walk_stop hdrop, walk_stop hdropped]
      rfl
    | cons t rest =>
      rw [hdrop, List.map_cons] at hdropped
      rw [walk_visit hdrop, walk_visit hdropped, himage.next, ← List.map_append, List.map_cons]
      have hlater := ih (t.node_id :: visited) (rest ++ g.next max_depth remaining visited t)
      rw [← hlater]
      rfl

/-- **Image law**: the walk in the image is the image of the walk. -/
theorem walk_map (himage : IsImage f h g g') (max_nodes : Nat) (seed : K) :
    g'.walkFrom max_depth max_nodes seed =
      (g.walkFrom max_depth max_nodes seed).map (mapTrail f h) := by
  unfold walkFrom
  rw [himage.node]
  match g.node seed with
  | none => rfl
  | some n => exact himage.walk max_nodes [] [⟨seed, 0, [n], []⟩]

end WalkGraph
