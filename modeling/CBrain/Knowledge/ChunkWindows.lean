import CBrain.Knowledge.Chunking

/-! # The windows of a text

    Models the loop of `split_chunks` (`cbrain/knowledge/chunking.py`) for any
    size and any overlap: how long it runs, and which windows it cuts.

    * `splitLoop_windows` : with enough fuel the loop cuts the windows.
    * `windowed`          : the windows overlap by the overlap and join to the
      text.
    * `splitText_chunks`  : the law of `split_chunks`. -/

namespace CBrain.Knowledge

/-! ## Section 1: The loop -/

/-- The loop of `split_chunks`: none where the fuel runs out. -/
def splitLoop (normalized : List Char) (size overlap : Nat) :
    Nat → Nat → List (List Char) → Option (List (List Char))
  | 0, _, _ => none
  | fuel + 1, start, parts =>
    if start < normalized.length then
      let stop := min normalized.length (start + size)
      let parts := parts ++ [(normalized.take stop).drop start]
      if normalized.length ≤ stop then some parts
      else splitLoop normalized size overlap fuel (stop - overlap) parts
    else some parts

/-- `split_chunks`, with fuel for its loop. -/
def splitText (fuel : Nat) (text : String) (size overlap : Int) : Option (Raises (List String)) :=
  let normalized := normalizeText text
  if size < 1 then some (.error (knowledgeError "chunk_size must be a positive integer"))
  else if normalized = "" then
    some (.error (knowledgeError "document text is empty after normalization"))
  else if overlap < 0 ∨ size ≤ overlap then
    some (.error (knowledgeError "chunk_overlap must be < chunk_size"))
  else if normalized.length ≤ size then some (.ok [normalized])
  else
    (splitLoop normalized.toList size.toNat overlap.toNat fuel 0 []).map
      fun parts => .ok (parts.map String.ofList)

/-- **Termination**: from a place in the text on, as many passes as characters
    are left cut the windows of the rest. -/
theorem splitLoop_windows {normalized : List Char} {size overlap : Nat} (h : overlap < size)
    {fuel start : Nat} (hstart : start < normalized.length)
    (hfuel : normalized.length - start ≤ fuel) (parts : List (List Char)) :
    splitLoop normalized size overlap fuel start parts =
      some (parts ++ windows size overlap h (normalized.drop start)) := by
  induction fuel generalizing start parts with
  | zero => omega
  | succ fuel ih =>
    have hslice : ∀ stop, (normalized.take stop).drop start =
        (normalized.drop start).take (stop - start) := fun stop => List.drop_take
    rw [splitLoop, if_pos hstart]
    by_cases hlast : normalized.length ≤ start + size
    · -- the last window takes what is left
      have hstop : min normalized.length (start + size) = normalized.length := by omega
      have hrest : (normalized.drop start).take (normalized.length - start) =
          normalized.drop start := List.take_of_length_le (by rw [List.length_drop])
      simp only [hstop, hslice, hrest, le_refl, if_true]
      rw [windows, dif_pos (by rw [List.length_drop]; omega)]
    · have hstop : min normalized.length (start + size) = start + size := by omega
      have hmore : ¬ normalized.length ≤ start + size := hlast
      have hsize : start + size - start = size := by omega
      have hnext : start + size - overlap = start + (size - overlap) := by omega
      have hcut : windows size overlap h (normalized.drop start) =
          (normalized.drop start).take size ::
            windows size overlap h (normalized.drop (start + (size - overlap))) := by
        rw [windows, dif_neg (by rw [List.length_drop]; omega), List.drop_drop]
      simp only [hstop, hslice, hsize, if_neg hmore]
      rw [ih (by omega) (by omega), hcut, List.append_assoc, List.singleton_append, hnext]

/-- The loop of a configuration cuts its windows. -/
theorem splitText_config (config : KnowledgeConfig) (text : String) {fuel : Nat}
    (hfuel : (normalizeText text).length ≤ fuel) :
    splitText fuel text config.chunk_size config.chunk_overlap =
      some (splitChunks config text) := by
  have hlt := config.chunk_overlap_lt
  unfold splitText splitChunks
  rw [if_neg (by omega)]
  by_cases hempty : normalizeText text = ""
  · simp only [if_pos hempty]
  · simp only [if_neg hempty]
    rw [if_neg (by omega)]
    by_cases hshort : (normalizeText text).length ≤ config.chunk_size
    · rw [if_pos (by exact_mod_cast hshort), if_pos hshort]
    · have hlength : (normalizeText text).toList.length = (normalizeText text).length :=
        String.length_toList
      rw [if_neg (by exact_mod_cast hshort), if_neg hshort, Int.toNat_natCast, Int.toNat_natCast,
        splitLoop_windows hlt (by omega) (by omega)]
      rfl

/-! ## Section 2: Windows -/

/-- The windows joined, without what each repeats of the last. -/
def joinWindows (overlap : Nat) : List (List Char) → List Char
  | [] => []
  | c :: cs => c ++ cs.flatMap fun d => d.drop overlap

/-- The second window begins with the end of the first, and goes on after it. -/
def Overlaps (overlap : Nat) (c d : List Char) : Prop :=
  overlap ≤ c.length ∧ overlap < d.length ∧ c.drop (c.length - overlap) = d.take overlap

/-- What the windows of a text are. -/
structure Windowed (size overlap : Nat) (text : List Char) (chunks : List (List Char)) : Prop where
  some_chunk : chunks ≠ []
  bounded : ∀ c ∈ chunks, c ≠ [] ∧ c.length ≤ size
  overlaps : chunks.IsChain (Overlaps overlap)
  joined : joinWindows overlap chunks = text

/-- The first window begins as the text does. -/
theorem head?_windows (size overlap : Nat) (h : overlap < size) (cs : List Char) :
    (windows size overlap h cs).head? = some (cs.take size) := by
  rw [windows]
  by_cases hlast : cs.length ≤ size
  · rw [dif_pos hlast, List.take_of_length_le hlast]
    rfl
  · rw [dif_neg hlast]
    rfl

theorem joinWindows_cons {overlap : Nat} {c d : List Char} {ds : List (List Char)} :
    joinWindows overlap (c :: d :: ds) = c ++ (joinWindows overlap (d :: ds)).drop overlap ∨
      d.length < overlap := by
  by_cases hlt : d.length < overlap
  · exact Or.inr hlt
  · left
    simp only [joinWindows, List.flatMap_cons]
    rw [List.drop_append_of_le_length (by omega)]

theorem windowed {size overlap : Nat} (h : overlap < size) {cs : List Char} (hcs : cs ≠ []) :
    Windowed size overlap cs (windows size overlap h cs) := by
  induction hn : cs.length using Nat.strongRecOn generalizing cs with
  | ind n ih =>
    subst hn
    by_cases hlast : cs.length ≤ size
    · have hone : windows size overlap h cs = [cs] := by rw [windows, dif_pos hlast]
      rw [hone]
      exact {
        some_chunk := List.cons_ne_nil cs []
        bounded := by
          intro c hc
          rw [List.mem_singleton.mp hc]
          exact ⟨hcs, hlast⟩
        overlaps := List.isChain_singleton cs
        joined := by simp [joinWindows] }
    · have hmore : windows size overlap h cs =
          cs.take size :: windows size overlap h (cs.drop (size - overlap)) := by
        rw [windows, dif_neg hlast]
      have hlength : (cs.drop (size - overlap)).length = cs.length - (size - overlap) :=
        List.length_drop
      have hrest : cs.drop (size - overlap) ≠ [] := by
        intro hnil
        rw [hnil, List.length_nil] at hlength
        omega
      have hwindowed := ih _ (by omega) hrest rfl
      have hhead := head?_windows size overlap h (cs.drop (size - overlap))
      cases htail : windows size overlap h (cs.drop (size - overlap)) with
      | nil => exact absurd htail hwindowed.some_chunk
      | cons d ds =>
        rw [htail] at hhead hwindowed hmore
        obtain rfl : d = (cs.drop (size - overlap)).take size := by simpa using hhead
        have hsecond : overlap < ((cs.drop (size - overlap)).take size).length := by
          rw [List.length_take]
          omega
        rw [hmore]
        exact {
          some_chunk := List.cons_ne_nil _ _
          bounded := by
            intro c hc
            rcases List.mem_cons.mp hc with hfirst | hlater
            · rw [hfirst]
              constructor
              · intro hnil
                rw [List.take_eq_nil_iff] at hnil
                rcases hnil with hzero | hnil
                · omega
                · exact hcs hnil
              · exact List.length_take_le size cs
            · exact hwindowed.bounded c hlater
          overlaps := by
            refine List.isChain_cons_cons.mpr ⟨⟨?_, hsecond, ?_⟩, hwindowed.overlaps⟩
            · rw [List.length_take]
              omega
            · -- both are the characters before the end of the first window
              have hsize : (cs.take size).length = size := by
                rw [List.length_take]
                omega
              rw [hsize, List.drop_take, List.take_take]
              congr 1
              omega
          joined := by
            rcases @joinWindows_cons overlap (cs.take size)
              ((cs.drop (size - overlap)).take size) ds with hjoin | hshort
            · rw [hjoin, hwindowed.joined, List.drop_drop]
              have hend : size - overlap + overlap = size := by omega
              rw [hend, List.take_append_drop]
            · omega }

/-! ## Section 3: The law of `split_chunks` -/

/-- What the chunks of a text are: its windows, as texts. -/
def Splits (size overlap : Nat) (normalized : String) (chunks : List String) : Prop :=
  Windowed size overlap normalized.toList (chunks.map String.toList)

/-- **Splitting**: for every accepted size and overlap the loop ends; a text that
    is empty after normalization is refused, and every other is cut into windows
    that overlap by the overlap and join to the normalized text. -/
theorem splitText_chunks (text : String) (size overlap : Int) (hsize : 1 ≤ size)
    (hoverlap : 0 ≤ overlap) (hlt : overlap < size) :
    ∃ result, (∀ fuel, (normalizeText text).length ≤ fuel →
        splitText fuel text size overlap = some result) ∧
      (normalizeText text = "" →
        result = .error (knowledgeError "document text is empty after normalization")) ∧
      (normalizeText text ≠ "" → ∃ chunks, result = .ok chunks ∧
        Splits size.toNat overlap.toNat (normalizeText text) chunks) := by
  have hwindow : overlap.toNat < size.toNat := by omega
  by_cases hempty : normalizeText text = ""
  · refine ⟨_, fun fuel _ => ?_, fun _ => rfl, fun hne => absurd hempty hne⟩
    unfold splitText
    rw [if_neg (by omega), if_pos hempty]
  · have hlist : (normalizeText text).toList ≠ [] := fun h => hempty (String.toList_eq_nil_iff.mp h)
    have hlength : (normalizeText text).toList.length = (normalizeText text).length :=
      String.length_toList
    refine ⟨.ok ((windows size.toNat overlap.toNat hwindow
      (normalizeText text).toList).map String.ofList), ?_, fun h => absurd h hempty, fun _ =>
      ⟨_, rfl, ?_⟩⟩
    · intro fuel hfuel
      unfold splitText
      rw [if_neg (by omega)]
      simp only [if_neg hempty]
      rw [if_neg (by omega)]
      by_cases hshort : ((normalizeText text).length : Int) ≤ size
      · rw [if_pos hshort, windows, dif_pos (by omega)]
        simp
      · have hpos := List.length_pos_iff.mpr hlist
        rw [if_neg hshort, splitLoop_windows hwindow (by omega) (by omega)]
        rfl
    · unfold Splits
      rw [List.map_map]
      simp only [Function.comp_def, String.toList_ofList, List.map_id']
      exact windowed hwindow hlist

/-- A text of five characters in windows of three that overlap by two. -/
theorem splitText_abcde : ∃ result, (∀ fuel, (normalizeText " ab cd ").length ≤ fuel →
        splitText fuel " ab cd " 3 2 = some result) ∧
      (normalizeText " ab cd " = "" →
        result = .error (knowledgeError "document text is empty after normalization")) ∧
      (normalizeText " ab cd " ≠ "" → ∃ chunks, result = .ok chunks ∧
        Splits (3 : Int).toNat (2 : Int).toNat (normalizeText " ab cd ") chunks) :=
  splitText_chunks " ab cd " 3 2 (by decide) (by decide) (by decide)

end CBrain.Knowledge
