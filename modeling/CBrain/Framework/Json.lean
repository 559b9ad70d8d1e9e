import CBrain.Framework.Decimal

/-! # JSON values

    The values a JSON decoder returns.  An object is kept as its member list
    in strictly increasing key order, which makes dictionary equality (which
    ignores insertion order) equality of lists; `WF` says that this order
    holds at every level, and `dictOf` builds such an object from members in
    any order, the last one winning.

    Text is Unicode text (`String`).  A number with a fraction or an exponent
    is a `JsonFloat`: a decimal literal, or one of the three special values
    the decoder also accepts.
-/

/-- A floating-point value. -/
inductive JsonFloat where
  | finite (d : Decimal)
  | infinity (neg : Bool)
  | nan
  deriving DecidableEq, Repr

/-- A decoded JSON value. -/
inductive Json where
  | null
  | bool (b : Bool)
  | int (i : Int)
  | float (x : JsonFloat)
  | str (s : String)
  | arr (xs : List Json)
  | obj (ms : List (String × Json))

namespace Json

/-- The members of an object, in key order. -/
abbrev Members : Type := List (String × Json)

/-! ## Induction and decidable equality -/

/-- Induction over a value: the elements of an array and the member values of
    an object satisfy the hypothesis. -/
theorem ind {P : Json → Prop} (null : P null) (bool : ∀ b, P (bool b)) (int : ∀ i, P (int i))
    (float : ∀ x, P (float x)) (str : ∀ s, P (str s))
    (arr : ∀ xs, (∀ x ∈ xs, P x) → P (arr xs))
    (obj : ∀ ms, (∀ m ∈ ms, P m.2) → P (obj ms)) : ∀ j, P j
  | .null => null
  | .bool b => bool b
  | .int i => int i
  | .float x => float x
  | .str s => str s
  | .arr xs => arr xs fun x _ => ind null bool int float str arr obj x
  | .obj ms => obj ms fun m hm => by
      have : sizeOf m.2 < sizeOf ms := by
        have h₁ := List.sizeOf_lt_of_mem hm
        have h₂ : sizeOf m.2 < sizeOf m := by
          rcases m with ⟨k, v⟩
          simp only [Prod.mk.sizeOf_spec]
          omega
        omega
      exact ind null bool int float str arr obj m.2

mutual

/-- Structural equality test. -/
def beq : Json → Json → Bool
  | .null, .null => true
  | .bool a, .bool b => a == b
  | .int a, .int b => a == b
  | .float a, .float b => a == b
  | .str a, .str b => a == b
  | .arr a, .arr b => beqElems a b
  | .obj a, .obj b => beqMembers a b
  | _, _ => false

def beqElems : List Json → List Json → Bool
  | [], [] => true
  | x :: xs, y :: ys => beq x y && beqElems xs ys
  | _, _ => false

def beqMembers : Members → Members → Bool
  | [], [] => true
  | (k, x) :: xs, (l, y) :: ys => k == l && beq x y && beqMembers xs ys
  | _, _ => false

end

theorem beqElems_iff {xs : List Json} (h : ∀ x ∈ xs, ∀ y, beq x y = true ↔ x = y)
    (ys : List Json) : beqElems xs ys = true ↔ xs = ys := by
  induction xs generalizing ys with
  | nil => cases ys <;> simp [beqElems]
  | cons x xs ih =>
    cases ys with
    | nil => simp [beqElems]
    | cons y ys =>
      simp [beqElems, h x (by simp) y, ih (fun z hz => h z (by simp [hz])) ys]

theorem beqMembers_iff {xs : Members} (h : ∀ x ∈ xs, ∀ y, beq x.2 y = true ↔ x.2 = y)
    (ys : Members) : beqMembers xs ys = true ↔ xs = ys := by
  induction xs generalizing ys with
  | nil => cases ys <;> simp [beqMembers]
  | cons x xs ih =>
    rcases x with ⟨k, x⟩
    cases ys with
    | nil => simp [beqMembers]
    | cons y ys =>
      rcases y with ⟨l, y⟩
      have hx := h (k, x) (by simp) y
      simp only at hx
      simp [beqMembers, hx, ih (fun z hz => h z (by simp [hz])) ys, and_assoc]

theorem beq_iff (a b : Json) : beq a b = true ↔ a = b := by
  induction a using ind generalizing b with
  | null => cases b <;> simp [beq]
  | bool x => cases b <;> simp [beq]
  | int i => cases b <;> simp [beq]
  | float x => cases b <;> simp [beq]
  | str s => cases b <;> simp [beq]
  | arr xs ih =>
    cases b with
    | arr ys => simp [beq, beqElems_iff ih ys]
    | _ => simp [beq]
  | obj xs ih =>
    cases b with
    | obj ys => simp [beq, beqMembers_iff ih ys]
    | _ => simp [beq]

instance : DecidableEq Json := fun a b => decidable_of_iff _ (beq_iff a b)

/-! ## Objects in key order -/

/-- Every object inside the value is in strictly increasing key order. -/
inductive WF : Json → Prop where
  | null : WF .null
  | bool (b : Bool) : WF (.bool b)
  | int (i : Int) : WF (.int i)
  | float (x : JsonFloat) : WF (.float x)
  | str (s : String) : WF (.str s)
  | arr {xs : List Json} : (∀ x ∈ xs, WF x) → WF (.arr xs)
  | obj {ms : Members} : ms.Pairwise (fun a b => a.1 < b.1) → (∀ m ∈ ms, WF m.2) → WF (.obj ms)

theorem WF.sorted {ms : Members} (h : WF (.obj ms)) : ms.Pairwise (fun a b => a.1 < b.1) := by
  cases h; assumption

theorem WF.member {ms : Members} (h : WF (.obj ms)) : ∀ m ∈ ms, WF m.2 := by
  cases h; assumption

theorem WF.elem {xs : List Json} (h : WF (.arr xs)) : ∀ x ∈ xs, WF x := by
  cases h; assumption

theorem wf_cons {k : String} {v : Json} {ms : Members} (hlt : ∀ m ∈ ms, k < m.1) (hv : WF v)
    (hms : WF (.obj ms)) : WF (.obj ((k, v) :: ms)) := by
  refine WF.obj (List.pairwise_cons.mpr ⟨hlt, hms.sorted⟩) ?_
  intro m hm
  rcases List.mem_cons.mp hm with rfl | hm
  · exact hv
  · exact hms.member m hm

/-- Set a member: replace the value of an existing key, else insert. -/
def setMember (k : String) (v : Json) : Members → Members
  | [] => [(k, v)]
  | (l, w) :: ms =>
    if k < l then (k, v) :: (l, w) :: ms
    else if k = l then (k, v) :: ms
    else (l, w) :: setMember k v ms

/-- The object with the given members, the last one of each key winning. -/
def dictOf (ms : Members) : Members := ms.foldl (fun acc m => setMember m.1 m.2 acc) []

theorem mem_setMember {k : String} {v : Json} {ms : Members} {m : String × Json}
    (h : m ∈ setMember k v ms) : m = (k, v) ∨ m ∈ ms := by
  induction ms with
  | nil => left; simpa [setMember] using h
  | cons a ms ih =>
    rcases a with ⟨l, w⟩
    simp only [setMember] at h
    split at h
    · simpa using h
    · split at h
      · rcases List.mem_cons.mp h with rfl | h
        · exact Or.inl rfl
        · exact Or.inr (by simp [h])
      · rcases List.mem_cons.mp h with rfl | h
        · exact Or.inr (by simp)
        · rcases ih h with rfl | h
          · exact Or.inl rfl
          · exact Or.inr (by simp [h])

theorem wf_setMember {k : String} {v : Json} {ms : Members} (hv : WF v) (hms : WF (.obj ms)) :
    WF (.obj (setMember k v ms)) := by
  induction ms with
  | nil => exact wf_cons (by simp) hv (WF.obj List.Pairwise.nil (by simp))
  | cons a ms ih =>
    rcases a with ⟨l, w⟩
    have hsorted := List.pairwise_cons.mp hms.sorted
    have hw : WF w := hms.member (l, w) (by simp)
    have hrest : WF (.obj ms) := WF.obj hsorted.2 fun m hm => hms.member m (by simp [hm])
    simp only [setMember]
    split
    · next hkl =>
      refine wf_cons ?_ hv hms
      intro m hm
      rcases List.mem_cons.mp hm with rfl | hm
      · exact hkl
      · exact String.lt_trans hkl (hsorted.1 m hm)
    · next hkl =>
      split
      · next hkl' => exact wf_cons (fun m hm => hkl' ▸ hsorted.1 m hm) hv hrest
      · next hkl' =>
        refine wf_cons ?_ hw (ih hrest)
        intro m hm
        rcases mem_setMember hm with rfl | hm
        · rcases String.le_total k l with hle | hle
          · exact absurd (String.le_antisymm hle (String.not_lt.mp hkl)) hkl'
          · by_contra hlk
            exact hkl' (String.le_antisymm (String.not_lt.mp hlk) (String.not_lt.mp hkl))
        · exact hsorted.1 m hm

theorem wf_dictOf {ms : Members} (h : ∀ m ∈ ms, WF m.2) : WF (.obj (dictOf ms)) := by
  suffices hgen : ∀ acc : Members, WF (.obj acc) →
      WF (.obj (ms.foldl (fun acc m => setMember m.1 m.2 acc) acc)) by
    exact hgen [] (WF.obj List.Pairwise.nil (by simp))
  induction ms with
  | nil => intro acc hacc; exact hacc
  | cons m ms ih =>
    intro acc hacc
    exact ih (fun x hx => h x (by simp [hx])) _ (wf_setMember (h m (by simp)) hacc)

theorem setMember_append_last {k : String} {v : Json} {ms : Members} (h : ∀ m ∈ ms, m.1 < k) :
    setMember k v ms = ms ++ [(k, v)] := by
  induction ms with
  | nil => rfl
  | cons a ms ih =>
    rcases a with ⟨l, w⟩
    have hl : l < k := h (l, w) (by simp)
    have h1 : ¬ k < l := fun hk => String.lt_irrefl _ (String.lt_trans hl hk)
    have h2 : ¬ k = l := fun hk => String.lt_irrefl l (hk ▸ hl)
    simp [setMember, h1, h2, ih (fun m hm => h m (by simp [hm]))]

/-- Members already in key order are their own object. -/
theorem dictOf_sorted {ms : Members} (h : ms.Pairwise (fun a b => a.1 < b.1)) :
    dictOf ms = ms := by
  suffices hgen : ∀ acc : Members, (acc ++ ms).Pairwise (fun a b => a.1 < b.1) →
      ms.foldl (fun acc m => setMember m.1 m.2 acc) acc = acc ++ ms by
    unfold dictOf
    simpa using hgen [] (by simpa using h)
  clear h
  induction ms with
  | nil => intro acc _; simp
  | cons m ms ih =>
    intro acc hacc
    have hlast : setMember m.1 m.2 acc = acc ++ [m] := by
      apply setMember_append_last
      intro x hx
      exact (List.pairwise_append.mp hacc).2.2 x hx m (by simp)
    rw [List.foldl_cons, hlast, ih (acc ++ [m]) (by simpa using hacc)]
    simp

/-! ## Access -/

/-- The value of a key. -/
def get? (ms : Members) (k : String) : Option Json := ms.lookup k

/-- The keys present. -/
def keys (ms : Members) : List String := ms.map Prod.fst

/-- The value of a key, absent and `null` alike being `null`. -/
def getD (ms : Members) (k : String) : Json := (get? ms k).getD .null

@[simp] theorem get?_nil (k : String) : get? [] k = none := rfl

theorem get?_cons (m : String × Json) (ms : Members) (k : String) :
    get? (m :: ms) k = if k = m.1 then some m.2 else get? ms k := by
  rcases m with ⟨l, v⟩
  by_cases h : k = l
  · subst h
    simp [get?]
  · have hb : (k == l) = false := by simp [h]
    simp [get?, List.lookup_cons, h, hb]

theorem mem_of_get? {ms : Members} {k : String} {v : Json} (h : get? ms k = some v) :
    (k, v) ∈ ms := by
  induction ms with
  | nil => simp at h
  | cons m ms ih =>
    rw [get?_cons] at h
    split at h
    · next hk =>
      obtain rfl : m.2 = v := by simpa using h
      subst hk
      simp
    · exact List.mem_cons_of_mem _ (ih h)

/-- A member of an object is found under its key. -/
theorem get?_of_mem {ms : Members} (h : WF (.obj ms)) {m : String × Json} (hm : m ∈ ms) :
    get? ms m.1 = some m.2 := by
  have hs := h.sorted
  clear h
  induction ms with
  | nil => cases hm
  | cons a ms ih =>
    obtain ⟨hlt, hs⟩ := List.pairwise_cons.mp hs
    rw [get?_cons]
    rcases List.mem_cons.mp hm with rfl | hm
    · rw [if_pos rfl]
    · have hne : m.1 ≠ a.1 := by
        intro heq
        have := hlt m hm
        rw [heq] at this
        exact String.lt_irrefl _ this
      rw [if_neg hne, ih hm hs]

theorem WF.get? {ms : Members} (h : WF (.obj ms)) {k : String} {v : Json}
    (hv : Json.get? ms k = some v) : WF v :=
  h.member (k, v) (mem_of_get? hv)

/-! ## Dictionary-style equality

    Two numbers are equal when their values are, whatever their JSON type:
    `true` is `1`, and `1` is `1.0`.  NaN equals nothing. -/

/-- The numeric reading of a value, if it has one. -/
inductive Num where
  | value (q : ℚ)
  | infinity (neg : Bool)
  | nan
  deriving DecidableEq

/-- Numbers, with booleans read as `0` and `1`. -/
def num? : Json → Option Num
  | .bool b => some (.value (if b then 1 else 0))
  | .int i => some (.value i)
  | .float (.finite d) => some (.value d.toRat)
  | .float (.infinity neg) => some (.infinity neg)
  | .float .nan => some .nan
  | _ => none

/-- Equality of numbers. -/
def Num.eq : Num → Num → Bool
  | .value p, .value q => p == q
  | .infinity a, .infinity b => a == b
  | _, _ => false

mutual

/-- Equality of decoded values as the language's `==` decides it. -/
def pyEq : Json → Json → Bool
  | .null, .null => true
  | .str a, .str b => a == b
  | .arr a, .arr b => pyEqElems a b
  | .obj a, .obj b => pyEqMembers a b
  | a, b =>
    match num? a, num? b with
    | some p, some q => p.eq q
    | _, _ => false

def pyEqElems : List Json → List Json → Bool
  | [], [] => true
  | x :: xs, y :: ys => pyEq x y && pyEqElems xs ys
  | _, _ => false

def pyEqMembers : Members → Members → Bool
  | [], [] => true
  | (k, x) :: xs, (l, y) :: ys => k == l && pyEq x y && pyEqMembers xs ys
  | _, _ => false

end

/-! ## Finite values -/

mutual

/-- No infinity and no NaN anywhere. -/
def finite : Json → Bool
  | .float (.finite _) => true
  | .float _ => false
  | .arr xs => finiteElems xs
  | .obj ms => finiteMembers ms
  | _ => true

def finiteElems : List Json → Bool
  | [] => true
  | x :: xs => finite x && finiteElems xs

def finiteMembers : Members → Bool
  | [] => true
  | (_, x) :: xs => finite x && finiteMembers xs

end

theorem finiteMembers_iff {ms : Members} :
    finiteMembers ms = true ↔ ∀ m ∈ ms, finite m.2 = true := by
  induction ms with
  | nil => simp [finiteMembers]
  | cons m ms ih => rcases m with ⟨k, v⟩; simp [finiteMembers, ih]

theorem finiteElems_iff {xs : List Json} :
    finiteElems xs = true ↔ ∀ x ∈ xs, finite x = true := by
  induction xs with
  | nil => simp [finiteElems]
  | cons x xs ih => simp [finiteElems, ih]

/-- A finite value is equal to itself. -/
theorem pyEq_refl {j : Json} (h : finite j = true) : pyEq j j = true := by
  induction j using ind with
  | null => simp [pyEq]
  | bool b => simp [pyEq, num?, Num.eq]
  | int i => simp [pyEq, num?, Num.eq]
  | float x =>
    cases x with
    | finite d => simp [pyEq, num?, Num.eq]
    | infinity neg => simp [finite] at h
    | nan => simp [finite] at h
  | str s => simp [pyEq]
  | arr xs ih =>
    rw [finite, finiteElems_iff] at h
    rw [pyEq]
    induction xs with
    | nil => simp [pyEqElems]
    | cons x xs ihxs =>
      simp [pyEqElems, ih x (by simp) (h x (by simp)),
        ihxs (fun y hy => ih y (by simp [hy])) (fun y hy => h y (by simp [hy]))]
  | obj ms ih =>
    rw [finite, finiteMembers_iff] at h
    rw [pyEq]
    induction ms with
    | nil => simp [pyEqMembers]
    | cons m ms ihms =>
      rcases m with ⟨k, v⟩
      have hv := ih (k, v) (by simp) (h (k, v) (by simp))
      simp only at hv
      simp [pyEqMembers, hv,
        ihms (fun y hy => ih y (by simp [hy])) (fun y hy => h y (by simp [hy]))]

/-! ## Kinds of numbers

    Where `pyEq` holds, two values can still differ in the JSON type of a
    number or in the sign of a zero; `sameKinds` rules exactly that out. -/

/-- Signs of two float literals agree. -/
def JsonFloat.sameSign : JsonFloat → JsonFloat → Bool
  | .finite a, .finite b => a.neg == b.neg
  | _, _ => true

/-- A boolean or a number. -/
def isNum (j : Json) : Bool := (num? j).isSome

mutual

/-- At every position the two values share, booleans and numbers have the
    same JSON type, and floats the same sign. -/
def sameKinds : Json → Json → Bool
  | .bool _, .bool _ => true
  | .int _, .int _ => true
  | .float a, .float b => JsonFloat.sameSign a b
  | .arr a, .arr b => sameKindsElems a b
  | .obj a, .obj b => sameKindsMembers a b
  | a, b => !(isNum a && isNum b)

def sameKindsElems : List Json → List Json → Bool
  | x :: xs, y :: ys => sameKinds x y && sameKindsElems xs ys
  | _, _ => true

def sameKindsMembers : Members → Members → Bool
  | (_, x) :: xs, (_, y) :: ys => sameKinds x y && sameKindsMembers xs ys
  | _, _ => true

end

theorem eq_of_pyEqElems {xs ys : List Json}
    (h : ∀ x ∈ xs, ∀ y, pyEq x y = true → sameKinds x y = true → x = y)
    (heq : pyEqElems xs ys = true) (hk : sameKindsElems xs ys = true) : xs = ys := by
  induction xs generalizing ys with
  | nil =>
    cases ys with
    | nil => rfl
    | cons y ys => simp [pyEqElems] at heq
  | cons x xs ih =>
    cases ys with
    | nil => simp [pyEqElems] at heq
    | cons y ys =>
      simp only [pyEqElems, Bool.and_eq_true] at heq
      simp only [sameKindsElems, Bool.and_eq_true] at hk
      rw [h x (by simp) y heq.1 hk.1, ih (fun z hz => h z (by simp [hz])) heq.2 hk.2]

theorem eq_of_pyEqMembers {xs ys : Members}
    (h : ∀ x ∈ xs, ∀ y, pyEq x.2 y = true → sameKinds x.2 y = true → x.2 = y)
    (heq : pyEqMembers xs ys = true) (hk : sameKindsMembers xs ys = true) : xs = ys := by
  induction xs generalizing ys with
  | nil =>
    cases ys with
    | nil => rfl
    | cons y ys => simp [pyEqMembers] at heq
  | cons x xs ih =>
    rcases x with ⟨k, x⟩
    rcases ys with _ | ⟨⟨l, y⟩, ys⟩
    · simp [pyEqMembers] at heq
    · simp only [pyEqMembers, Bool.and_eq_true, beq_iff_eq] at heq
      simp only [sameKindsMembers, Bool.and_eq_true] at hk
      obtain ⟨⟨rfl, hxy⟩, hrest⟩ := heq
      have hx := h (k, x) (by simp) y hxy hk.1
      simp only at hx
      rw [hx, ih (fun z hz => h z (by simp [hz])) hrest hk.2]

/-- Equal values of the same kinds are identical. -/
theorem eq_of_pyEq {a b : Json} (h : pyEq a b = true) (hk : sameKinds a b = true) : a = b := by
  induction a using ind generalizing b with
  | null => cases b <;> simp_all [pyEq, num?]
  | bool x => cases b <;> simp_all [pyEq, sameKinds, isNum, num?, Num.eq]
              cases x <;> rename_i y <;> cases y <;> simp_all
  | int i => cases b <;> simp_all [pyEq, sameKinds, isNum, num?, Num.eq]
  | float x =>
    cases b with
    | float y =>
      cases x <;> cases y <;>
        simp_all [pyEq, sameKinds, JsonFloat.sameSign, num?, Num.eq]
      next d e => exact Decimal.eq_of_toRat hk h
    | _ => cases x <;> simp_all [pyEq, sameKinds, isNum, num?]
  | str s => cases b <;> simp_all [pyEq, num?]
  | arr xs ih =>
    cases b with
    | arr ys =>
      rw [pyEq] at h
      rw [sameKinds] at hk
      rw [eq_of_pyEqElems (fun x hx y => ih x hx) h hk]
    | _ => simp_all [pyEq, num?]
  | obj xs ih =>
    cases b with
    | obj ys =>
      rw [pyEq] at h
      rw [sameKinds] at hk
      rw [eq_of_pyEqMembers (fun x hx y => ih x hx) h hk]
    | _ => simp_all [pyEq, num?]

theorem sameKinds_refl (j : Json) : sameKinds j j = true := by
  induction j using ind with
  | null => simp [sameKinds, isNum, num?]
  | bool b => simp [sameKinds]
  | int i => simp [sameKinds]
  | float x => cases x <;> simp [sameKinds, JsonFloat.sameSign]
  | str s => simp [sameKinds, isNum, num?]
  | arr xs ih =>
    rw [sameKinds]
    induction xs with
    | nil => simp [sameKindsElems]
    | cons x xs ihxs =>
      simp [sameKindsElems, ih x (by simp), ihxs (fun y hy => ih y (by simp [hy]))]
  | obj ms ih =>
    rw [sameKinds]
    induction ms with
    | nil => simp [sameKindsMembers]
    | cons m ms ihms =>
      rcases m with ⟨k, v⟩
      have hv := ih (k, v) (by simp)
      simp only at hv
      simp [sameKindsMembers, hv, ihms (fun y hy => ih y (by simp [hy]))]

/-- Where the values are equal, being identical and being of the same kinds
    is one condition. -/
theorem eq_iff_sameKinds {a b : Json} (h : pyEq a b = true) : a = b ↔ sameKinds a b = true := by
  constructor
  · rintro rfl
    exact sameKinds_refl a
  · exact eq_of_pyEq h

/-! ## Dictionaries -/

/-- A dictionary of JSON values: members in key order at every level. -/
structure Dict where
  members : Members
  wf : WF (.obj members)

namespace Dict

theorem ext {d e : Dict} (h : d.members = e.members) : d = e := by
  rcases d with ⟨_, _⟩
  rcases e with ⟨_, _⟩
  subst h
  rfl

instance : DecidableEq Dict := fun d e =>
  decidable_of_iff (d.members = e.members) ⟨ext, fun h => h ▸ rfl⟩

/-- The dictionary as a value. -/
def json (d : Dict) : Json := .obj d.members

@[simp] theorem json_inj {d e : Dict} : d.json = e.json ↔ d = e :=
  ⟨fun h => ext (by simpa [json] using h), fun h => h ▸ rfl⟩

@[simp] theorem wf_json (d : Dict) : WF d.json := d.wf

/-- The value of a key. -/
def get? (d : Dict) (k : String) : Option Json := Json.get? d.members k

/-- `d.get(k)`: the value of a key, `null` if there is none. -/
def get (d : Dict) (k : String) : Json := (d.get? k).getD .null

/-- The keys present. -/
def keys (d : Dict) : List String := Json.keys d.members

/-- Equality of dictionaries as the language's `==` decides it. -/
def pyEq (d e : Dict) : Bool := Json.pyEq d.json e.json

/-- A dictionary literal; the last value of a key wins. -/
def of (ms : Members) (h : ∀ m ∈ ms, WF m.2) : Dict := ⟨dictOf ms, wf_dictOf h⟩

theorem wf_of_nil : ∀ m ∈ ([] : Members), WF m.2 := by simp

/-- `d | {k: v}`. -/
def set (d : Dict) (k : String) (v : Json) (h : WF v) : Dict :=
  ⟨setMember k v d.members, wf_setMember h d.wf⟩

/-- The members that satisfy a test on the key. -/
def filter (d : Dict) (p : String → Bool) : Dict where
  members := d.members.filter fun m => p m.1
  wf := WF.obj (d.wf.sorted.filter _) fun m hm => d.wf.member m (List.mem_filter.mp hm).1

theorem wf_get? {d : Dict} {k : String} {v : Json} (h : d.get? k = some v) : WF v :=
  d.wf.get? h

/-- The value of a key is well formed. -/
theorem wf_get (d : Dict) (k : String) : WF (d.get k) := by
  unfold get
  cases h : d.get? k with
  | none => exact WF.null
  | some v => exact wf_get? h

end Dict

attribute [simp] WF.null WF.bool WF.int WF.float WF.str

/-- The dictionary that a well-formed value is, if it is one. -/
def dict? (j : Json) (h : WF j) : Option Dict :=
  match j, h with
  | .obj ms, h => some ⟨ms, h⟩
  | _, _ => none

@[simp] theorem dict?_json (d : Dict) (h : WF d.json) : dict? d.json h = some d := rfl

theorem json_of_dict? {j : Json} {h : WF j} {d : Dict} (hd : dict? j h = some d) :
    j = d.json := by
  unfold dict? at hd
  split at hd
  · obtain rfl := Option.some.inj hd
    rfl
  · cases hd

/-- The text that a value is, if it is one. -/
def str? : Json → Option String
  | .str s => some s
  | _ => none

@[simp] theorem str?_str (s : String) : str? (.str s) = some s := rfl

theorem str?_eq_some {j : Json} {s : String} : str? j = some s ↔ j = .str s := by
  cases j <;> simp [str?]

/-! ## Lookup in a literal -/

theorem get?_setMember (k : String) (v : Json) (ms : Members) (l : String) :
    get? (setMember k v ms) l = if l = k then some v else get? ms l := by
  induction ms with
  | nil => simp [setMember, get?_cons]
  | cons m ms ih =>
    rcases m with ⟨m, w⟩
    simp only [setMember]
    split
    · rw [get?_cons]
    · split
      · next hkm =>
        rw [get?_cons, get?_cons]
        by_cases hl : l = k
        · simp [hl]
        · simp [hl, hkm ▸ hl]
      · next hkm =>
        rw [get?_cons, get?_cons, ih]
        by_cases hl : l = k
        · simp [hl, hkm]
        · simp [hl]

/-- A literal holds the last value given for each key. -/
theorem get?_dictOf (ms : Members) (k : String) : get? (dictOf ms) k = get? ms.reverse k := by
  suffices hgen : ∀ (acc : Members), get? (ms.foldl (fun acc m => setMember m.1 m.2 acc) acc) k =
      (get? ms.reverse k).or (get? acc k) by
    unfold dictOf
    rw [hgen []]
    simp
  induction ms with
  | nil => intro acc; simp
  | cons m ms ih =>
    intro acc
    have happ : get? (ms.reverse ++ [m]) k = (get? ms.reverse k).or (get? [m] k) := by
      simp [get?, List.lookup_append]
    rw [List.foldl_cons, ih, get?_setMember, List.reverse_cons, happ, get?_cons]
    cases get? ms.reverse k with
    | some v => simp
    | none => by_cases hk : k = m.1 <;> simp [hk]

@[simp] theorem Dict.get?_of (ms : Members) (h : ∀ m ∈ ms, WF m.2) (k : String) :
    (Dict.of ms h).get? k = Json.get? ms.reverse k :=
  get?_dictOf ms k

/-- A literal of finite values is finite. -/
theorem Dict.finite_of {ms : Members} {h : ∀ m ∈ ms, WF m.2} (hf : ∀ m ∈ ms, finite m.2 = true) :
    finite (Dict.of ms h).json = true := by
  rw [Dict.json, finite, finiteMembers_iff]
  intro m hm
  have hget : (Dict.of ms h).get? m.1 = some m.2 := get?_of_mem (Dict.of ms h).wf hm
  rw [Dict.get?_of] at hget
  exact hf _ (List.mem_reverse.mp (mem_of_get? hget))

theorem Dict.finite_set {d : Dict} {k : String} {v : Json} (h : WF v)
    (hd : finite d.json = true) (hv : finite v = true) : finite (d.set k v h).json = true := by
  rw [Dict.json, finite, finiteMembers_iff] at hd ⊢
  intro m hm
  rcases mem_setMember hm with rfl | hold
  · exact hv
  · exact hd m hold

/-- The keys of `setMember` do not depend on the values. -/
theorem keys_setMember (k : String) (v : Json) (ms : Members) :
    keys (setMember k v ms) = keys (setMember k .null (ms.map fun m => (m.1, .null))) := by
  induction ms with
  | nil => rfl
  | cons m ms ih =>
    have hkeys : keys (ms.map fun m => (m.1, Json.null)) = keys ms := by simp [keys]
    simp only [setMember, List.map_cons]
    by_cases hlt : k < m.1
    · simp only [if_pos hlt]
      simp [keys]
    · by_cases heq : k = m.1
      · simp only [if_neg hlt, if_pos heq]
        simp [keys]
      · simp only [if_neg hlt, if_neg heq]
        show m.1 :: keys _ = m.1 :: keys _
        rw [ih]

/-- The keys of a literal do not depend on the values. -/
theorem Dict.keys_of (ms : Members) (h : ∀ m ∈ ms, WF m.2) :
    (Dict.of ms h).keys = Json.keys (dictOf (ms.map fun m => (m.1, .null))) := by
  suffices hgen : ∀ acc acc' : Members, Json.keys acc = Json.keys acc' →
      Json.keys (ms.foldl (fun acc m => setMember m.1 m.2 acc) acc) =
        Json.keys ((ms.map fun m => (m.1, Json.null)).foldl
          (fun acc m => setMember m.1 m.2 acc) acc') by
    exact hgen [] [] rfl
  clear h
  induction ms with
  | nil => intro acc acc' hacc; exact hacc
  | cons m ms ih =>
    intro acc acc' hacc
    have hblank : (acc.map fun m => (m.1, Json.null)) = acc'.map fun m => (m.1, Json.null) := by
      have h := congrArg (List.map fun k => (k, Json.null)) hacc
      simpa [Json.keys, Function.comp_def] using h
    rw [List.foldl_cons, List.map_cons, List.foldl_cons]
    apply ih
    rw [keys_setMember, hblank, ← keys_setMember]

theorem Dict.get?_set (d : Dict) (k : String) (v : Json) (h : WF v) (l : String) :
    (d.set k v h).get? l = if l = k then some v else d.get? l :=
  get?_setMember k v d.members l

/-- A filter that keeps every key keeps the dictionary. -/
theorem Dict.filter_eq_self {d : Dict} {p : String → Bool} (h : ∀ k ∈ d.keys, p k = true) :
    d.filter p = d := by
  apply Dict.ext
  show d.members.filter (fun m => p m.1) = d.members
  apply List.filter_eq_self.mpr
  intro m hm
  exact h m.1 (List.mem_map.mpr ⟨m, hm, rfl⟩)

theorem length_of_pyEqMembers {xs ys : Members} (h : pyEqMembers xs ys = true) :
    xs.length = ys.length := by
  induction xs generalizing ys with
  | nil =>
    cases ys with
    | nil => rfl
    | cons y ys => simp [pyEqMembers] at h
  | cons x xs ih =>
    cases ys with
    | nil => simp [pyEqMembers] at h
    | cons y ys =>
      simp only [pyEqMembers, Bool.and_eq_true] at h
      simp [ih h.2]

/-- A filtered dictionary that equals the whole one is the whole one. -/
theorem Dict.filter_eq_of_pyEq {d : Dict} {p : String → Bool} (h : (d.filter p).pyEq d = true) :
    d.filter p = d := by
  have hlength : (d.members.filter fun m => p m.1).length = d.members.length := by
    apply length_of_pyEqMembers
    have hmembers : Json.pyEq (.obj (d.filter p).members) (.obj d.members) = true := h
    rw [Json.pyEq] at hmembers
    exact hmembers
  apply Dict.ext
  show d.members.filter (fun m => p m.1) = d.members
  apply List.filter_eq_self.mpr
  exact List.length_filter_eq_length_iff.mp hlength

end Json
