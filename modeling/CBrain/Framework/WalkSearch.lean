import CBrain.Framework.Walk
import Mathlib.Data.Finset.Card
import Mathlib.Data.List.Nodup

/-! # What a bounded breadth-first walk finds

    The queue of a walk holds trails in the order of their depths, and two
    depths in it differ by at most one.  A node that is reachable and not yet
    visited is behind some trail in the queue that is no longer than the way to
    the node.  So the trail visited next is a shortest one, and when the queue
    runs dry nothing reachable is left.

    Section 1 says what a trail is a path of, Section 2 what the queue and the
    visited nodes have to do with each other, and Section 3 what follows for a
    whole walk:

    * `leads_of_walkFrom`    : every trail is a simple path from the seed.
    * `least_of_walkFrom`    : no way to its end is shorter.
    * `length_walkFrom_le`   : there are at most `max_nodes` of them.
    * `walkFrom_complete`    : they end in every node within reach, if those
                               are few enough.
-/

namespace WalkGraph

variable {K N E : Type} [DecidableEq K] {g : WalkGraph K N E} {max_depth : Nat} {seed : K}

/-! ## Section 1: Paths -/

/-- A way of `d` edges over nodes of the graph leads from `seed` to a node. -/
inductive Reaches (g : WalkGraph K N E) (seed : K) : Nat → K → Prop where
  | seed {n : N} : g.node seed = some n → Reaches g seed 0 seed
  | step {d : Nat} {k : K} {e : E} {n : N} : Reaches g seed d k → e ∈ g.edges k →
      g.node (g.target e) = some n → Reaches g seed (d + 1) (g.target e)

/-- A shortest way to a node has `d` edges. -/
def Least (g : WalkGraph K N E) (seed : K) (d : Nat) (k : K) : Prop :=
  g.Reaches seed d k ∧ ∀ d', g.Reaches seed d' k → d ≤ d'

/-- Each edge leaves one key and leads to the next. -/
def Joins (g : WalkGraph K N E) : List K → List E → Prop
  | [_], [] => True
  | k :: k' :: keys, e :: edges => e ∈ g.edges k ∧ g.target e = k' ∧ Joins g (k' :: keys) edges
  | _, _ => False

/-- A simple path: it starts at `seed`, follows edges of the graph through the
    nodes under `keys`, and comes to no key twice. -/
structure IsPath (g : WalkGraph K N E) (seed : K) (keys : List K) (nodes : List N)
    (edges : List E) : Prop where
  simple : keys.Nodup
  starts : keys.head? = some seed
  visible : keys.map g.node = nodes.map some
  joined : g.Joins keys edges

omit [DecidableEq K] in
/-- One edge further. -/
theorem Joins.snoc {keys : List K} {edges : List E} {k : K} {e : E} (h : g.Joins keys edges)
    (hlast : keys.getLast? = some k) (he : e ∈ g.edges k) :
    g.Joins (keys ++ [g.target e]) (edges ++ [e]) := by
  induction keys generalizing edges with
  | nil => cases hlast
  | cons j keys ih =>
    cases keys with
    | nil =>
      cases edges with
      | nil =>
        obtain rfl : j = k := by simpa using hlast
        exact ⟨he, rfl, trivial⟩
      | cons e' edges => cases h
    | cons j' keys =>
      cases edges with
      | nil => cases h
      | cons e' edges =>
        obtain ⟨hmem, htarget, hrest⟩ := h
        rw [List.getLast?_cons_cons] at hlast
        exact ⟨hmem, htarget, ih hrest hlast⟩

/-- The trail is the record of a simple path through the nodes under `keys`. -/
structure Leads (g : WalkGraph K N E) (seed : K) (keys : List K) (t : Trail K N E) : Prop
    extends g.IsPath seed keys t.nodes t.edges where
  ends : keys.getLast? = some t.node_id
  depth : t.edges.length = t.depth
  reaches : g.Reaches seed t.depth t.node_id

omit [DecidableEq K] in
theorem leads_seed {n : N} (h : g.node seed = some n) :
    g.Leads seed [seed] ⟨seed, 0, [n], []⟩ where
  simple := List.nodup_singleton seed
  starts := rfl
  visible := by simp [h]
  joined := trivial
  ends := rfl
  depth := rfl
  reaches := .seed h

omit [DecidableEq K] in
/-- One edge further, to a node the path has not come through. -/
theorem Leads.step {keys : List K} {t : Trail K N E} {e : E} {n : N} (h : g.Leads seed keys t)
    (he : e ∈ g.edges t.node_id) (hnew : g.target e ∉ keys) (hn : g.node (g.target e) = some n) :
    g.Leads seed (keys ++ [g.target e])
      ⟨g.target e, t.depth + 1, t.nodes ++ [n], t.edges ++ [e]⟩ where
  simple := List.nodup_append.mpr ⟨h.simple, List.nodup_singleton _, by
    intro a ha b hb hab
    obtain rfl := List.mem_singleton.mp hb
    exact hnew (hab ▸ ha)⟩
  starts := by rw [List.head?_append, h.starts]; rfl
  visible := by
    rw [List.map_append, List.map_append, h.visible, List.map_singleton, List.map_singleton, hn]
  joined := h.joined.snoc h.ends he
  ends := List.getLast?_concat
  depth := by rw [List.length_append, h.depth]; rfl
  reaches := .step h.reaches he hn

/-! ## Section 2: The queue -/

/-- What holds of the visited nodes and the queue between two visits. -/
structure Frontier (g : WalkGraph K N E) (seed : K) (max_depth : Nat) (visited : List K)
    (queue : List (Trail K N E)) : Prop where
  leads : ∀ t ∈ queue, t.depth ≤ max_depth ∧
    ∃ keys, g.Leads seed keys t ∧ ∀ k ∈ keys, k = t.node_id ∨ k ∈ visited
  order : queue.Pairwise fun t u => t.depth ≤ u.depth
  close : ∀ t ∈ queue, ∀ u ∈ queue, u.depth ≤ t.depth + 1
  least : ∀ k ∈ visited, ∃ d, d ≤ max_depth ∧ g.Least seed d k
  opened : ∀ k ∈ visited, ∀ d, g.Least seed d k → d < max_depth → ∀ e ∈ g.edges k, ∀ n,
    g.node (g.target e) = some n → g.target e ∈ visited ∨
      ∃ t ∈ queue, t.node_id = g.target e ∧ t.depth ≤ d + 1
  start : seed ∈ visited ∨ ∃ t ∈ queue, t.node_id = seed ∧ t.depth = 0

omit [DecidableEq K] in
theorem frontier_seed {n : N} (h : g.node seed = some n) :
    g.Frontier seed max_depth [] [⟨seed, 0, [n], []⟩] where
  leads := by
    intro t ht
    obtain rfl := List.mem_singleton.mp ht
    exact ⟨Nat.zero_le _, [seed], leads_seed h, fun k hk => Or.inl (List.mem_singleton.mp hk)⟩
  order := List.pairwise_singleton _ _
  close := by
    intro t ht u hu
    obtain rfl := List.mem_singleton.mp ht
    obtain rfl := List.mem_singleton.mp hu
    omega
  least := fun k hk => nomatch hk
  opened := fun k hk => nomatch hk
  start := Or.inr ⟨_, List.mem_singleton.mpr rfl, rfl, rfl⟩

section frontier

variable {visited : List K} {queue rest : List (Trail K N E)} {t : Trail K N E}

/-- A node that is reachable and not visited is behind a trail in the queue
    that is no longer than the way to it.  Induction on the way: the trail leads
    to the first node on it that is not visited. -/
theorem Frontier.behind (h : g.Frontier seed max_depth visited queue) {d : Nat} {k : K}
    (hk : g.Reaches seed d k) (hd : d ≤ max_depth) (hnew : k ∉ visited) :
    ∃ t ∈ queue, t.node_id ∉ visited ∧ t.depth ≤ d := by
  induction hk with
  | seed hn =>
    rcases h.start with hold | ⟨t, ht, hid, hdepth⟩
    · exact absurd hold hnew
    · exact ⟨t, ht, hid ▸ hnew, by omega⟩
  | @step d j e n hj he hn ih =>
    by_cases hvisited : j ∈ visited
    · obtain ⟨d₀, -, hleast⟩ := h.least j hvisited
      have hle : d₀ ≤ d := hleast.2 d hj
      rcases h.opened j hvisited d₀ hleast (by omega) e he n hn with hold | ⟨t, ht, hid, hdepth⟩
      · exact absurd hold hnew
      · exact ⟨t, ht, hid ▸ hnew, by omega⟩
    · obtain ⟨t, ht, hid, hdepth⟩ := ih (by omega) hvisited
      exact ⟨t, ht, hid, by omega⟩

theorem mem_dropWhile_of_not {α : Type} {p : α → Bool} {xs : List α} {x : α} (h : x ∈ xs)
    (hx : p x = false) : x ∈ xs.dropWhile p := by
  have hsplit : x ∈ xs.takeWhile p ++ xs.dropWhile p := by
    rw [List.takeWhile_append_dropWhile]
    exact h
  rcases List.mem_append.mp hsplit with htaken | hdropped
  · rw [List.all_eq_true.mp List.all_takeWhile x htaken] at hx
    cases hx
  · exact hdropped

theorem not_mem_of_drop (hdrop : queue.dropWhile (seen visited) = t :: rest) :
    t.node_id ∉ visited := by
  have hhead := List.head?_dropWhile_not (seen visited) queue
  rw [hdrop] at hhead
  simpa [seen] using hhead

theorem mem_of_drop (hdrop : queue.dropWhile (seen visited) = t :: rest) {u : Trail K N E}
    (hu : u ∈ t :: rest) : u ∈ queue :=
  (List.dropWhile_suffix (seen visited)).subset (hdrop ▸ hu)

/-- What is left in the queue of a node not visited was not skipped. -/
theorem mem_kept (hdrop : queue.dropWhile (seen visited) = t :: rest) {u : Trail K N E}
    (hu : u ∈ queue) (hnew : u.node_id ∉ visited) : u = t ∨ u ∈ rest := by
  have hkept : u ∈ queue.dropWhile (seen visited) :=
    mem_dropWhile_of_not hu (decide_eq_false hnew)
  rw [hdrop] at hkept
  exact List.mem_cons.mp hkept

theorem Frontier.order_drop (h : g.Frontier seed max_depth visited queue)
    (hdrop : queue.dropWhile (seen visited) = t :: rest) :
    (t :: rest).Pairwise fun t u => t.depth ≤ u.depth :=
  hdrop ▸ h.order.sublist (List.dropWhile_suffix (seen visited)).sublist

/-- **The next visit is a shortest one**. -/
theorem Frontier.least_head (h : g.Frontier seed max_depth visited queue)
    (hdrop : queue.dropWhile (seen visited) = t :: rest) : g.Least seed t.depth t.node_id := by
  have ht : t ∈ queue := mem_of_drop hdrop List.mem_cons_self
  obtain ⟨hdepth, keys, hleads, -⟩ := h.leads t ht
  refine ⟨hleads.reaches, ?_⟩
  intro d hd
  by_cases hle : d ≤ max_depth
  · obtain ⟨u, hu, hnew, hud⟩ := h.behind hd hle (not_mem_of_drop hdrop)
    rcases mem_kept hdrop hu hnew with rfl | hrest
    · exact hud
    · have hfirst := (List.pairwise_cons.mp (h.order_drop hdrop)).1 u hrest
      omega
  · omega

theorem mem_extend {u : Trail K N E} : u ∈ g.extend visited t ↔
    ∃ e ∈ g.edges t.node_id, g.target e ∉ visited ∧ ∃ n, g.node (g.target e) = some n ∧
      u = ⟨g.target e, t.depth + 1, t.nodes ++ [n], t.edges ++ [e]⟩ := by
  unfold extend
  rw [List.mem_filterMap]
  refine exists_congr fun e => and_congr_right fun _ => ?_
  by_cases hvisited : g.target e ∈ visited
  · rw [if_pos hvisited]
    exact iff_of_false (fun hn => nomatch hn) fun hn => hn.1 hvisited
  · rw [if_neg hvisited, Option.map_eq_some_iff]
    constructor
    · rintro ⟨n, hn, hu⟩
      exact ⟨hvisited, n, hn, hu.symm⟩
    · rintro ⟨_, n, hn, hu⟩
      exact ⟨n, hn, hu.symm⟩

/-- **Step lemma**: a visit after which others follow. -/
theorem Frontier.visit (h : g.Frontier seed max_depth visited queue)
    (hdrop : queue.dropWhile (seen visited) = t :: rest) {remaining : Nat} (hrem : 0 < remaining) :
    g.Frontier seed max_depth (t.node_id :: visited)
      (rest ++ g.next max_depth remaining visited t) := by
  have ht : t ∈ queue := mem_of_drop hdrop List.mem_cons_self
  have hrest : ∀ u ∈ rest, u ∈ queue := fun u hu => mem_of_drop hdrop (List.mem_cons_of_mem t hu)
  have hfirst := List.pairwise_cons.mp (h.order_drop hdrop)
  have hleast := h.least_head hdrop
  -- What the visit adds lies one edge beyond the visited node.
  have hadded : ∀ u ∈ g.next max_depth remaining visited t, t.depth < max_depth ∧
      u ∈ g.extend (t.node_id :: visited) t := by
    intro u hu
    unfold next at hu
    by_cases hguard : t.depth < max_depth ∧ 0 < remaining
    · rw [if_pos hguard] at hu
      exact ⟨hguard.1, hu⟩
    · rw [if_neg hguard] at hu
      cases hu
  have hdepth : ∀ u ∈ g.next max_depth remaining visited t, u.depth = t.depth + 1 := by
    intro u hu
    obtain ⟨e, -, -, n, -, rfl⟩ := mem_extend.mp (hadded u hu).2
    rfl
  constructor
  case leads =>
    intro u hu
    rcases List.mem_append.mp hu with hold | hnew
    · obtain ⟨hd, keys, hleads, hkeys⟩ := h.leads u (hrest u hold)
      refine ⟨hd, keys, hleads, ?_⟩
      intro k hk
      exact (hkeys k hk).imp_right (List.mem_cons_of_mem _)
    · obtain ⟨hlt, hext⟩ := hadded u hnew
      obtain ⟨e, he, hout, n, hn, rfl⟩ := mem_extend.mp hext
      obtain ⟨-, keys, hleads, hkeys⟩ := h.leads t ht
      have hall : ∀ k ∈ keys, k ∈ t.node_id :: visited :=
        fun k hk => List.mem_cons.mpr (hkeys k hk)
      refine ⟨hlt, keys ++ [g.target e], hleads.step he (fun hk => hout (hall _ hk)) hn, ?_⟩
      intro k hk
      rcases List.mem_append.mp hk with hold | hlast
      · exact Or.inr (hall k hold)
      · exact Or.inl (List.mem_singleton.mp hlast)
  case order =>
    refine List.pairwise_append.mpr ⟨hfirst.2, ?_, ?_⟩
    · apply List.pairwise_of_forall_mem_list
      intro u hu v hv
      rw [hdepth u hu, hdepth v hv]
    · intro u hu v hv
      rw [hdepth v hv]
      exact h.close t ht u (hrest u hu)
  case close =>
    intro u hu v hv
    have hlow : t.depth ≤ u.depth := by
      rcases List.mem_append.mp hu with hold | hnew
      · exact hfirst.1 u hold
      · rw [hdepth u hnew]
        omega
    rcases List.mem_append.mp hv with hold | hnew
    · have := h.close t ht v (hrest v hold)
      omega
    · rw [hdepth v hnew]
      omega
  case least =>
    intro k hk
    rcases List.mem_cons.mp hk with rfl | hold
    · exact ⟨t.depth, (h.leads t ht).1, hleast⟩
    · exact h.least k hold
  case opened =>
    intro k hk d hd hlt e he n hn
    by_cases hvisited : g.target e ∈ t.node_id :: visited
    · exact Or.inl hvisited
    · right
      rcases List.mem_cons.mp hk with rfl | hold
      · -- The edges of the visited node were followed just now.
        obtain rfl : d = t.depth := le_antisymm (hd.2 _ hleast.1) (hleast.2 _ hd.1)
        refine ⟨⟨g.target e, t.depth + 1, t.nodes ++ [n], t.edges ++ [e]⟩, ?_, rfl, le_refl _⟩
        apply List.mem_append_right
        unfold next
        rw [if_pos ⟨hlt, hrem⟩]
        exact mem_extend.mpr ⟨e, he, hvisited, n, hn, rfl⟩
      · have hout : g.target e ∉ visited := fun hv => hvisited (List.mem_cons_of_mem _ hv)
        obtain hv | ⟨u, hu, hid, hud⟩ := h.opened k hold d hd hlt e he n hn
        · exact absurd hv hout
        · rcases mem_kept hdrop hu (hid ▸ hout) with rfl | hkept
          · exact absurd (hid ▸ List.mem_cons_self) hvisited
          · exact ⟨u, List.mem_append_left _ hkept, hid, hud⟩
  case start =>
    rcases h.start with hold | ⟨u, hu, hid, hzero⟩
    · exact Or.inl (List.mem_cons_of_mem _ hold)
    · by_cases hv : u.node_id ∈ visited
      · exact Or.inl (List.mem_cons_of_mem _ (hid ▸ hv))
      · rcases mem_kept hdrop hu hv with rfl | hkept
        · exact Or.inl (hid ▸ List.mem_cons_self)
        · exact Or.inr ⟨u, List.mem_append_left _ hkept, hid, hzero⟩

end frontier

/-! ## Section 3: Whole walks -/

/-- Induction on the visits left; nothing need hold of the queue once none is. -/
theorem leads_of_walk {remaining : Nat} {visited : List K} {queue : List (Trail K N E)}
    (h : 0 < remaining → g.Frontier seed max_depth visited queue) :
    ∀ t ∈ g.walk max_depth remaining visited queue,
      t.depth ≤ max_depth ∧ (∃ keys, g.Leads seed keys t) ∧ g.Least seed t.depth t.node_id := by
  induction remaining generalizing visited queue with
  | zero =>
    intro t ht
    cases ht
  | succ remaining ih =>
    have hfrontier := h (Nat.succ_pos remaining)
    cases hdrop : queue.dropWhile (seen visited) with
    | nil =>
      rw [walk_stop hdrop]
      intro t ht
      cases ht
    | cons u rest =>
      rw [walk_visit hdrop]
      intro t ht
      rcases List.mem_cons.mp ht with rfl | hlater
      · obtain ⟨hdepth, keys, hleads, -⟩ :=
          hfrontier.leads t (mem_of_drop hdrop List.mem_cons_self)
        exact ⟨hdepth, ⟨keys, hleads⟩, hfrontier.least_head hdrop⟩
      · exact ih (fun hrem => hfrontier.visit hdrop hrem) t hlater

theorem length_walk_le (remaining : Nat) (visited : List K) (queue : List (Trail K N E)) :
    (g.walk max_depth remaining visited queue).length ≤ remaining := by
  induction remaining generalizing visited queue with
  | zero => exact Nat.le_refl 0
  | succ remaining ih =>
    cases hdrop : queue.dropWhile (seen visited) with
    | nil =>
      rw [walk_stop hdrop]
      exact Nat.zero_le _
    | cons t rest =>
      rw [walk_visit hdrop, List.length_cons]
      exact Nat.succ_le_succ (ih _ _)

/-- Induction on the visits left.  While some are, the queue leads to whatever
    is reachable; when none is, as many nodes are visited as are reachable. -/
theorem walk_complete {reachable : Finset K}
    (hreach : ∀ d k, d ≤ max_depth → g.Reaches seed d k → k ∈ reachable) {remaining : Nat}
    {visited : List K} {queue : List (Trail K N E)}
    (h : 0 < remaining → g.Frontier seed max_depth visited queue) (hnodup : visited.Nodup)
    (hvisited : ∀ k ∈ visited, k ∈ reachable) (hcard : reachable.card ≤ visited.length + remaining)
    {d : Nat} {k : K} (hd : d ≤ max_depth) (hk : g.Reaches seed d k) (hnew : k ∉ visited) :
    ∃ t ∈ g.walk max_depth remaining visited queue, t.node_id = k := by
  induction remaining generalizing visited queue with
  | zero =>
    -- As many nodes are visited as are reachable, so none is missing.
    have hsub : visited.toFinset ⊆ reachable :=
      fun j hj => hvisited j (List.mem_toFinset.mp hj)
    have hall : visited.toFinset = reachable := by
      apply Finset.eq_of_subset_of_card_le hsub
      rw [List.toFinset_card_of_nodup hnodup]
      omega
    exact absurd (List.mem_toFinset.mp (hall ▸ hreach d k hd hk)) hnew
  | succ remaining ih =>
    have hfrontier := h (Nat.succ_pos remaining)
    cases hdrop : queue.dropWhile (seen visited) with
    | nil =>
      obtain ⟨t, ht, hout, -⟩ := hfrontier.behind hk hd hnew
      have hkept := mem_dropWhile_of_not (p := seen visited) ht (decide_eq_false hout)
      rw [hdrop] at hkept
      cases hkept
    | cons t rest =>
      rw [walk_visit hdrop]
      by_cases hkt : k = t.node_id
      · exact ⟨t, List.mem_cons_self, hkt.symm⟩
      · have hout : t.node_id ∉ visited := not_mem_of_drop hdrop
        have hin : t.node_id ∈ reachable := by
          obtain ⟨hdepth, keys, hleads, -⟩ :=
            hfrontier.leads t (mem_of_drop hdrop List.mem_cons_self)
          exact hreach _ _ hdepth hleads.reaches
        obtain ⟨u, hu, hid⟩ := @ih (t.node_id :: visited)
          (rest ++ g.next max_depth remaining visited t)
          (fun hrem => hfrontier.visit hdrop hrem) (List.nodup_cons.mpr ⟨hout, hnodup⟩)
          (fun j hj => (List.mem_cons.mp hj).elim (fun he => he ▸ hin) (hvisited j))
          (by rw [List.length_cons]; omega)
          (fun hmem => (List.mem_cons.mp hmem).elim hkt hnew)
        exact ⟨u, List.mem_cons_of_mem t hu, hid⟩

/-- **Soundness**: every trail of a walk is a simple path from the seed. -/
theorem leads_of_walkFrom {max_nodes : Nat} {t : Trail K N E}
    (ht : t ∈ g.walkFrom max_depth max_nodes seed) :
    t.depth ≤ max_depth ∧ ∃ keys, g.Leads seed keys t := by
  unfold walkFrom at ht
  match hseed : g.node seed with
  | none =>
    rw [hseed] at ht
    cases ht
  | some n =>
    rw [hseed] at ht
    obtain ⟨hdepth, hleads, -⟩ := leads_of_walk (fun _ => frontier_seed hseed) t ht
    exact ⟨hdepth, hleads⟩

/-- **Minimality**: no way to the end of a trail is shorter. -/
theorem least_of_walkFrom {max_nodes : Nat} {t : Trail K N E}
    (ht : t ∈ g.walkFrom max_depth max_nodes seed) : g.Least seed t.depth t.node_id := by
  unfold walkFrom at ht
  match hseed : g.node seed with
  | none =>
    rw [hseed] at ht
    cases ht
  | some n =>
    rw [hseed] at ht
    exact (leads_of_walk (fun _ => frontier_seed hseed) t ht).2.2

theorem length_walkFrom_le (max_nodes : Nat) (seed : K) :
    (g.walkFrom max_depth max_nodes seed).length ≤ max_nodes := by
  unfold walkFrom
  match g.node seed with
  | none => exact Nat.zero_le _
  | some n => exact length_walk_le _ _ _

omit [DecidableEq K] in
theorem Reaches.seed_visible {d : Nat} {k : K} (h : g.Reaches seed d k) :
    ∃ n, g.node seed = some n := by
  induction h with
  | seed hn => exact ⟨_, hn⟩
  | step _ _ _ ih => exact ih

/-- **Completeness**: every node within reach is the end of some trail, if at
    most `max_nodes` are within reach. -/
theorem walkFrom_complete {max_nodes : Nat} {reachable : Finset K}
    (hreach : ∀ d k, d ≤ max_depth → g.Reaches seed d k → k ∈ reachable)
    (hcard : reachable.card ≤ max_nodes) {d : Nat} {k : K} (hd : d ≤ max_depth)
    (hk : g.Reaches seed d k) : ∃ t ∈ g.walkFrom max_depth max_nodes seed, t.node_id = k := by
  obtain ⟨n, hseed⟩ := hk.seed_visible
  unfold walkFrom
  rw [hseed]
  exact walk_complete hreach (fun _ => frontier_seed hseed) List.nodup_nil (fun j hj => nomatch hj)
    (by rw [List.length_nil]; omega) hd hk (fun hmem => nomatch hmem)

end WalkGraph
