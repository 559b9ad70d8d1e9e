import CBrain.Framework.JsonEscapes

/-! # JSON embedded in HTML

    Models `encode_json_for_html` of `cbrain/agent/insights.py`: the text of a
    payload with the characters that would end or open markup written as escapes. -/

namespace CBrain

open Json (Dict Inert escaping unicodeEscape)

/-- `str.replace`, of one character. -/
def replaceChar (c : Char) (replacement : String) (cs : List Char) : List Char :=
  cs.flatMap fun d => if d = c then replacement.toList else [d]

/-- `encode_json_for_html`. -/
def encodeJsonForHtml (payload : Dict) : String :=
  let encoded := Json.dumps .default payload.json
  let encoded := replaceChar '<' "\\u003c" encoded
  let encoded := replaceChar '>' "\\u003e" encoded
  let encoded := replaceChar '&' "\\u0026" encoded
  let encoded := replaceChar (Char.ofNat 0x2028) "\\u2028" encoded
  let encoded := replaceChar (Char.ofNat 0x2029) "\\u2029" encoded
  String.ofList encoded

/-- A character that is replaced by its own escape. -/
structure Replaced (c : Char) (replacement : String) : Prop where
  inert : Inert c
  own_escape : replacement.toList = unicodeEscape c

theorem Replaced.replaceChar_eq {c : Char} {replacement : String} (h : Replaced c replacement)
    (cs : List Char) : replaceChar c replacement cs = escaping c cs := by
  induction cs with
  | nil => rfl
  | cons d cs ih =>
    unfold replaceChar at ih ⊢
    rw [List.flatMap_cons, ih, h.own_escape]
    by_cases hd : d = c
    · rw [if_pos hd, hd, Json.escaping_self]
    · rw [if_neg hd, Json.escaping_ne hd, List.singleton_append]

/-- The replaced text decodes to the same value. -/
theorem Replaced.loads {c : Char} {replacement : String} (h : Replaced c replacement)
    {cs : List Char} {v : Json} (hloads : Json.loads cs = some v) :
    Json.loads (replaceChar c replacement cs) = some v := by
  rw [h.replaceChar_eq]
  exact Json.loads_escaping h.inert hloads

/-- A replaced character is gone. -/
theorem Replaced.removed {c : Char} {replacement : String} (h : Replaced c replacement)
    (hescape : c ∉ unicodeEscape c) (cs : List Char) : c ∉ replaceChar c replacement cs := by
  rw [h.replaceChar_eq]
  intro hmem
  rcases Json.mem_escaping hmem with ⟨hne, -⟩ | hmem
  · exact hne rfl
  · exact hescape hmem

/-- A character stays out when another is replaced whose escape does not have it. -/
theorem Replaced.kept_out {c d : Char} {replacement : String} (h : Replaced c replacement)
    (hescape : d ∉ unicodeEscape c) {cs : List Char} (hd : d ∉ cs) :
    d ∉ replaceChar c replacement cs := by
  rw [h.replaceChar_eq]
  intro hmem
  rcases Json.mem_escaping hmem with ⟨-, hmem⟩ | hmem
  · exact hd hmem
  · exact hescape hmem

theorem replaced_lt : Replaced '<' "\\u003c" := ⟨⟨by decide, by decide, by decide⟩, by decide⟩

theorem replaced_gt : Replaced '>' "\\u003e" := ⟨⟨by decide, by decide, by decide⟩, by decide⟩

theorem replaced_amp : Replaced '&' "\\u0026" := ⟨⟨by decide, by decide, by decide⟩, by decide⟩

theorem replaced_lineSeparator : Replaced (Char.ofNat 0x2028) "\\u2028" :=
  ⟨⟨by decide, by decide, by decide⟩, by decide⟩

theorem replaced_paragraphSeparator : Replaced (Char.ofNat 0x2029) "\\u2029" :=
  ⟨⟨by decide, by decide, by decide⟩, by decide⟩

theorem encodeJsonForHtml_toList (payload : Dict) :
    (encodeJsonForHtml payload).toList =
      replaceChar (Char.ofNat 0x2029) "\\u2029" (replaceChar (Char.ofNat 0x2028) "\\u2028"
        (replaceChar '&' "\\u0026" (replaceChar '>' "\\u003e" (replaceChar '<' "\\u003c"
          (Json.dumps .default payload.json))))) := String.toList_ofList

theorem lt_not_mem (payload : Dict) : '<' ∉ (encodeJsonForHtml payload).toList := by
  rw [encodeJsonForHtml_toList]
  refine replaced_paragraphSeparator.kept_out (by decide) ?_
  refine replaced_lineSeparator.kept_out (by decide) ?_
  refine replaced_amp.kept_out (by decide) ?_
  refine replaced_gt.kept_out (by decide) ?_
  exact replaced_lt.removed (by decide) _

theorem gt_not_mem (payload : Dict) : '>' ∉ (encodeJsonForHtml payload).toList := by
  rw [encodeJsonForHtml_toList]
  refine replaced_paragraphSeparator.kept_out (by decide) ?_
  refine replaced_lineSeparator.kept_out (by decide) ?_
  refine replaced_amp.kept_out (by decide) ?_
  exact replaced_gt.removed (by decide) _

theorem amp_not_mem (payload : Dict) : '&' ∉ (encodeJsonForHtml payload).toList := by
  rw [encodeJsonForHtml_toList]
  refine replaced_paragraphSeparator.kept_out (by decide) ?_
  refine replaced_lineSeparator.kept_out (by decide) ?_
  exact replaced_amp.removed (by decide) _

theorem loads_encoded (payload : Dict) :
    Json.loads (encodeJsonForHtml payload).toList = some payload.json := by
  have hdumps := Json.loads_dumps .default payload.wf
  rw [encodeJsonForHtml_toList]
  exact replaced_paragraphSeparator.loads (replaced_lineSeparator.loads
    (replaced_amp.loads (replaced_gt.loads (replaced_lt.loads hdumps))))

/-- **Embedding**: the text has no character that markup is made of, and decodes to
    the payload. -/
theorem encodeJsonForHtml_law (payload : Dict) :
    (∀ c ∈ (encodeJsonForHtml payload).toList, c ≠ '<' ∧ c ≠ '>' ∧ c ≠ '&') ∧
      Json.loads (encodeJsonForHtml payload).toList = some payload.json := by
  refine ⟨?_, loads_encoded payload⟩
  intro c hc
  refine ⟨?_, ?_, ?_⟩
  · rintro rfl
    exact lt_not_mem payload hc
  · rintro rfl
    exact gt_not_mem payload hc
  · rintro rfl
    exact amp_not_mem payload hc

end CBrain
