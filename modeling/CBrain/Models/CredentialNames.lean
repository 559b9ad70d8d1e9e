import CBrain.Models.Contracts
import Mathlib.Data.List.Infix

/-! # Credential-shaped names at the model boundary

    A name is read as its words.  It is credential-shaped when the words of a
    sensitive name, one or several, occur in a row among them, whatever stands
    before and after.  The model contracts look for each single word and for
    the name as a whole.

    Section 1 says what the test of a name finds, Section 2 what the walk
    through a value visits, and Section 3 which captures let a
    credential-shaped name through. -/

namespace CBrain

open Json (Dict)

/-! ## Section 1: Names -/

/-- The words of a name. -/
def nameWords (name : String) : List String := words [] ((snakeCase name.toList).flatMap casefold)

/-- The sensitive names, each as its words. -/
def sensitiveNames : List (List String) := sensitiveComponents.map fun name => words [] name.toList

/-- The words of a sensitive name occur in a row in the name. -/
def CredentialShaped (name : String) : Prop := ∃ run ∈ sensitiveNames, run <:+: nameWords name

/-- A sensitive name of several words occurs in the name, other words stand
    around it, and no single word is sensitive. -/
def Surrounded (name : String) : Prop :=
  CredentialShaped name ∧ nameWords name ∉ sensitiveNames ∧
    ∀ word ∈ nameWords name, [word] ∉ sensitiveNames

instance (name : String) : Decidable (CredentialShaped name) :=
  inferInstanceAs (Decidable (∃ run ∈ sensitiveNames, run <:+: nameWords name))

instance (name : String) : Decidable (Surrounded name) :=
  inferInstanceAs (Decidable (_ ∧ _ ∧ ∀ word ∈ nameWords name, [word] ∉ sensitiveNames))

/-- A maximal run of `[a-z0-9]` read as text. -/
def IsWord (word : String) : Prop :=
  word.toList ≠ [] ∧ ∀ c ∈ word.toList, isLowerOrDigit c = true

theorem isWord_of_mem_words {run cs : List Char} (hrun : ∀ c ∈ run, isLowerOrDigit c = true)
    {word : String} (h : word ∈ words run cs) : IsWord word := by
  -- The run that was read so far, if it is one, is a word.
  have hread : ∀ {run : List Char}, (∀ c ∈ run, isLowerOrDigit c = true) → run ≠ [] →
      IsWord (String.ofList run.reverse) := by
    intro run hrun hne
    unfold IsWord
    rw [String.toList_ofList]
    exact ⟨fun hnil => hne (List.reverse_eq_nil_iff.mp hnil),
      fun c hc => hrun c (List.mem_reverse.mp hc)⟩
  induction cs generalizing run with
  | nil =>
    rw [words] at h
    by_cases hne : run = []
    · rw [if_pos hne] at h
      cases h
    · rw [if_neg hne, List.mem_singleton] at h
      exact h ▸ hread hrun hne
  | cons c cs ih =>
    rw [words] at h
    by_cases hc : isLowerOrDigit c = true
    · rw [if_pos hc] at h
      refine ih ?_ h
      intro d hd
      rcases List.mem_cons.mp hd with rfl | hd
      · exact hc
      · exact hrun d hd
    · rw [if_neg hc] at h
      by_cases hne : run = []
      · rw [if_pos hne] at h
        exact ih (by simp) h
      · rw [if_neg hne, List.mem_cons] at h
        rcases h with rfl | h
        · exact hread hrun hne
        · exact ih (by simp) h

theorem isWord_of_mem_nameWords {name word : String} (h : word ∈ nameWords name) : IsWord word :=
  isWord_of_mem_words (by simp) h

/-- Reading on inside a word. -/
theorem words_append {run cs : List Char} (hcs : ∀ c ∈ cs, isLowerOrDigit c = true)
    (rest : List Char) : words run (cs ++ rest) = words (cs.reverse ++ run) rest := by
  induction cs generalizing run with
  | nil => rfl
  | cons c cs ih =>
    rw [List.cons_append, words, if_pos (hcs c List.mem_cons_self),
      ih fun d hd => hcs d (List.mem_cons_of_mem c hd), List.reverse_cons, List.append_assoc]
    rfl

theorem words_word {word : String} (h : IsWord word) : words [] word.toList = [word] := by
  have hread : words [] (word.toList ++ []) = words (word.toList.reverse ++ []) [] :=
    words_append h.2 []
  rw [List.append_nil, List.append_nil] at hread
  rw [hread, words, if_neg (fun hnil => h.1 (List.reverse_eq_nil_iff.mp hnil)), List.reverse_reverse,
    String.ofList_toList]

/-- The words of joined words. -/
theorem words_intercalate {parts : List String} (h : ∀ word ∈ parts, IsWord word) :
    words [] ("_".intercalate parts).toList = parts := by
  induction parts with
  | nil => rfl
  | cons word parts ih =>
    have hword := h word List.mem_cons_self
    cases parts with
    | nil =>
      rw [String.intercalate_singleton]
      exact words_word hword
    | cons next parts =>
      have hne : word.toList.reverse ≠ [] := fun hnil => hword.1 (List.reverse_eq_nil_iff.mp hnil)
      rw [String.intercalate_cons_cons, String.toList_append, String.toList_append,
        List.append_assoc, words_append hword.2, List.append_nil]
      show words word.toList.reverse ('_' :: ("_".intercalate (next :: parts)).toList) = _
      rw [words, if_neg (by decide), if_neg hne, List.reverse_reverse, String.ofList_toList,
        ih fun w hw => h w (List.mem_cons_of_mem word hw)]

/-- Each sensitive name is its words joined. -/
theorem intercalate_sensitive :
    ∀ name ∈ sensitiveComponents, "_".intercalate (words [] name.toList) = name := by
  decide

theorem mem_sensitiveComponents {parts : List String} (h : ∀ word ∈ parts, IsWord word) :
    "_".intercalate parts ∈ sensitiveComponents ↔ parts ∈ sensitiveNames := by
  unfold sensitiveNames
  rw [List.mem_map]
  constructor
  · intro hmem
    exact ⟨_, hmem, words_intercalate h⟩
  · rintro ⟨name, hname, hparts⟩
    rw [← hparts, intercalate_sensitive name hname]
    exact hname

/-- **What the test of a name finds**: a single sensitive word, or a sensitive
    name that is the whole name. -/
theorem isSensitiveName_iff (name : String) :
    isSensitiveName name = true ↔
      nameWords name ∈ sensitiveNames ∨ ∃ word ∈ nameWords name, [word] ∈ sensitiveNames := by
  have hcomponents : normalizedComponents name = nameWords name ++ ["_".intercalate (nameWords name)] :=
    rfl
  have hwhole : "_".intercalate (nameWords name) ∈ sensitiveComponents ↔
      nameWords name ∈ sensitiveNames := mem_sensitiveComponents fun w => isWord_of_mem_nameWords
  have hsingle : ∀ word ∈ nameWords name, (word ∈ sensitiveComponents ↔ [word] ∈ sensitiveNames) := by
    intro word hword
    have h : "_".intercalate [word] ∈ sensitiveComponents ↔ [word] ∈ sensitiveNames :=
      mem_sensitiveComponents fun w hw => List.mem_singleton.mp hw ▸ isWord_of_mem_nameWords hword
    rwa [String.intercalate_singleton] at h
  -- The second test repeats the first for two of the sensitive names.
  have hagain : ∀ name ∈ ["api_key", "private_key"], name ∈ sensitiveComponents := by decide
  have htest : isSensitiveName name = true ↔
      ∃ part ∈ normalizedComponents name, part ∈ sensitiveComponents := by
    unfold isSensitiveName
    simp only [Bool.or_eq_true, List.any_eq_true, List.contains_iff_mem]
    constructor
    · rintro (h | ⟨part, hpart, hmem⟩)
      · exact h
      · exact ⟨part, hmem, hagain part hpart⟩
    · exact Or.inl
  rw [htest, hcomponents]
  constructor
  · rintro ⟨part, hpart, hmem⟩
    rcases List.mem_append.mp hpart with hword | hjoined
    · exact Or.inr ⟨part, hword, (hsingle part hword).mp hmem⟩
    · rw [List.mem_singleton.mp hjoined] at hmem
      exact Or.inl (hwhole.mp hmem)
  · rintro (h | ⟨word, hword, hmem⟩)
    · exact ⟨_, List.mem_append_right _ (List.mem_singleton.mpr rfl), hwhole.mpr h⟩
    · exact ⟨word, List.mem_append_left _ hword, (hsingle word hword).mpr hmem⟩

theorem CredentialShaped.of_isSensitiveName {name : String} (h : isSensitiveName name = true) :
    CredentialShaped name := by
  rcases (isSensitiveName_iff name).mp h with hwhole | ⟨word, hword, hmem⟩
  · exact ⟨_, hwhole, List.infix_rfl⟩
  · exact ⟨[word], hmem, (List.singleton_infix_iff word _).mpr hword⟩

/-- **What it misses**: the surrounded names. -/
theorem missed_iff (name : String) :
    CredentialShaped name ∧ isSensitiveName name = false ↔ Surrounded name := by
  rw [← Bool.not_eq_true, isSensitiveName_iff, not_or]
  unfold Surrounded
  constructor
  · rintro ⟨hshaped, hwhole, hword⟩
    exact ⟨hshaped, hwhole, fun word hmem hs => hword ⟨word, hmem, hs⟩⟩
  · rintro ⟨hshaped, hwhole, hword⟩
    exact ⟨hshaped, hwhole, fun ⟨word, hmem, hs⟩ => hword word hmem hs⟩

/-! ## Section 2: The walk through a value -/

mutual

/-- The keys of every object in the value, at any depth. -/
def deepKeys : Json → List String
  | .obj ms => deepKeysMembers ms
  | .arr xs => deepKeysElems xs
  | _ => []

def deepKeysElems : List Json → List String
  | [] => []
  | x :: xs => deepKeys x ++ deepKeysElems xs

def deepKeysMembers : Json.Members → List String
  | [] => []
  | (k, x) :: ms => k :: (deepKeys x ++ deepKeysMembers ms)

end

/-- The names that a `properties` member declares. -/
def propertyNames : Json → List String
  | .obj ms => Json.keys ms
  | _ => []

/-- The names that a `required` member lists. -/
def requiredNames : Json → List String
  | .arr xs => xs.filterMap Json.str?
  | _ => []

mutual

/-- The names that a schema declares or requires, at any depth. -/
def schemaNames : Json → List String
  | .obj ms =>
    propertyNames (Json.getD ms "properties") ++ requiredNames (Json.getD ms "required") ++
      schemaNamesMembers ms
  | .arr xs => schemaNamesElems xs
  | _ => []

def schemaNamesElems : List Json → List String
  | [] => []
  | x :: xs => schemaNames x ++ schemaNamesElems xs

def schemaNamesMembers : Json.Members → List String
  | [] => []
  | (_, x) :: ms => schemaNames x ++ schemaNamesMembers ms

end

/-- `properties` is absent, null or an object. -/
def DeclaresObject : Json → Prop
  | .null | .obj _ => True
  | _ => False

/-- `required` is absent, null or a list of texts. -/
def RequiresTexts : Json → Prop
  | .null => True
  | .arr xs => ∀ x ∈ xs, (Json.str? x).isSome = true
  | _ => False

mutual

/-- `properties` and `required` have their form in every object. -/
def WellDeclared : Json → Prop
  | .obj ms => DeclaresObject (Json.getD ms "properties") ∧
      RequiresTexts (Json.getD ms "required") ∧ WellDeclaredMembers ms
  | .arr xs => WellDeclaredElems xs
  | _ => True

def WellDeclaredElems : List Json → Prop
  | [] => True
  | x :: xs => WellDeclared x ∧ WellDeclaredElems xs

def WellDeclaredMembers : Json.Members → Prop
  | [] => True
  | (_, x) :: ms => WellDeclared x ∧ WellDeclaredMembers ms

end

/-- No name of the list is one that the test finds. -/
def Plain (names : List String) : Prop := ∀ name ∈ names, isSensitiveName name = false

theorem plain_append {xs ys : List String} : Plain (xs ++ ys) ↔ Plain xs ∧ Plain ys := by
  unfold Plain
  simp only [List.mem_append]
  constructor
  · intro h
    exact ⟨fun name hn => h name (Or.inl hn), fun name hn => h name (Or.inr hn)⟩
  · rintro ⟨hx, hy⟩ name hn
    exact hn.elim (hx name) (hy name)

theorem plain_cons {x : String} {xs : List String} :
    Plain (x :: xs) ↔ isSensitiveName x = false ∧ Plain xs := List.forall_mem_cons

theorem plain_nil : Plain [] := fun _ h => nomatch h

theorem rejectSensitiveElems_ok {xs : List Json} {path : String}
    (h : ∀ x ∈ xs, ∀ path, rejectSensitiveKeys path x = .ok () ↔ Plain (deepKeys x)) :
    rejectSensitiveElems path xs = .ok () ↔ Plain (deepKeysElems xs) := by
  induction xs with
  | nil => exact iff_of_true rfl plain_nil
  | cons x xs ih =>
    rw [rejectSensitiveElems, unit_bind_ok, h x List.mem_cons_self,
      ih fun y hy => h y (List.mem_cons_of_mem x hy), deepKeysElems, plain_append]

theorem rejectSensitiveMembers_ok_of {ms : Json.Members} {path : String}
    (h : ∀ m ∈ ms, ∀ path, rejectSensitiveKeys path m.2 = .ok () ↔ Plain (deepKeys m.2)) :
    rejectSensitiveMembers path ms = .ok () ↔ Plain (deepKeysMembers ms) := by
  induction ms generalizing path with
  | nil => exact iff_of_true rfl plain_nil
  | cons m ms ih =>
    obtain ⟨k, x⟩ := m
    rw [rejectSensitiveMembers, require_bind_ok, unit_bind_ok, h (k, x) List.mem_cons_self,
      ih fun y hy => h y (List.mem_cons_of_mem (k, x) hy), deepKeysMembers, plain_cons, plain_append]

/-- **What the walk through arguments checks**: every key, at any depth. -/
theorem rejectSensitiveKeys_ok (value : Json) (path : String) :
    rejectSensitiveKeys path value = .ok () ↔ Plain (deepKeys value) := by
  induction value using Json.ind generalizing path with
  | arr xs ih =>
    rw [rejectSensitiveKeys, deepKeys]
    exact rejectSensitiveElems_ok ih
  | obj ms ih =>
    rw [rejectSensitiveKeys, deepKeys]
    exact rejectSensitiveMembers_ok_of ih
  | _ => exact iff_of_true rfl plain_nil

theorem rejectSensitiveMembers_ok (ms : Json.Members) (path : String) :
    rejectSensitiveMembers path ms = .ok () ↔ Plain (deepKeys (.obj ms)) := by
  rw [deepKeys]
  exact rejectSensitiveMembers_ok_of fun m _ => rejectSensitiveKeys_ok m.2

/-- A loop that raises at the first sensitive name. -/
theorem forM_names_ok {α : Type} {name : α → String} {e : α → Exn} (xs : List α) :
    (xs.forM fun x => require (isSensitiveName (name x) = false) (e x) : Raises Unit) = .ok () ↔
      Plain (xs.map name) := by
  induction xs with
  | nil => exact iff_of_true rfl plain_nil
  | cons x xs ih =>
    show (require _ _ >>= fun _ => xs.forM _) = _ ↔ _
    rw [require_bind_ok, ih, List.map_cons, plain_cons]

theorem rejectSensitiveProperties_ok (value : Json) (path : String) :
    rejectSensitiveProperties path value = .ok () ↔
      DeclaresObject value ∧ Plain (propertyNames value) := by
  cases value with
  | null => exact iff_of_true rfl ⟨trivial, plain_nil⟩
  | obj ms =>
    rw [rejectSensitiveProperties, forM_names_ok]
    exact ⟨fun h => ⟨trivial, h⟩, fun h => h.2⟩
  | _ => exact iff_of_false (fun h => nomatch h) fun h => h.1

theorem mapM_str?_eq_some {xs : List Json} {names : List String}
    (h : xs.mapM Json.str? = some names) :
    (∀ x ∈ xs, (Json.str? x).isSome = true) ∧ names = xs.filterMap Json.str? := by
  induction xs generalizing names with
  | nil =>
    obtain rfl : [] = names := Option.some.inj h
    exact ⟨fun _ hx => (nomatch hx), rfl⟩
  | cons x xs ih =>
    rw [List.mapM_cons] at h
    obtain ⟨name, hname, h⟩ := Option.bind_eq_some_iff.mp h
    obtain ⟨rest, hrest, h⟩ := Option.bind_eq_some_iff.mp h
    obtain rfl : name :: rest = names := Option.some.inj h
    obtain ⟨hall, hrest⟩ := ih hrest
    constructor
    · intro y hy
      rcases List.mem_cons.mp hy with rfl | hy
      · rw [hname]
        rfl
      · exact hall y hy
    · rw [List.filterMap_cons, hname, hrest]

theorem mapM_str?_eq_none {xs : List Json} (h : xs.mapM Json.str? = none) :
    ¬ ∀ x ∈ xs, (Json.str? x).isSome = true := by
  intro hall
  induction xs with
  | nil => cases h
  | cons x xs ih =>
    obtain ⟨name, hname⟩ := Option.isSome_iff_exists.mp (hall x List.mem_cons_self)
    rw [List.mapM_cons, hname] at h
    cases hrest : xs.mapM Json.str? with
    | none => exact ih hrest fun y hy => hall y (List.mem_cons_of_mem x hy)
    | some names =>
      rw [hrest] at h
      cases h

theorem rejectSensitiveRequired_ok (value : Json) (path : String) :
    rejectSensitiveRequired path value = .ok () ↔
      RequiresTexts value ∧ Plain (requiredNames value) := by
  cases value with
  | null => exact iff_of_true rfl ⟨trivial, plain_nil⟩
  | arr xs =>
    rw [rejectSensitiveRequired]
    cases hnames : xs.mapM Json.str? with
    | none => exact iff_of_false (fun h => nomatch h) fun h => mapM_str?_eq_none hnames h.1
    | some names =>
      obtain ⟨hall, rfl⟩ := mapM_str?_eq_some hnames
      have hloop := @forM_names_ok String id
        (fun name => modelContractError
          [.text s!"{path} requires credential-shaped property ", .repr (.str name)])
        (xs.filterMap Json.str?)
      rw [List.map_id] at hloop
      exact hloop.trans ⟨fun h => ⟨hall, h⟩, fun h => h.2⟩
  | _ => exact iff_of_false (fun h => nomatch h) fun h => h.1

theorem rejectSchemaElems_ok {xs : List Json} {path : String}
    (h : ∀ x ∈ xs, ∀ path,
      rejectSensitiveSchema path x = .ok () ↔ WellDeclared x ∧ Plain (schemaNames x)) :
    rejectSchemaElems path xs = .ok () ↔ WellDeclaredElems xs ∧ Plain (schemaNamesElems xs) := by
  induction xs with
  | nil => exact iff_of_true rfl ⟨trivial, plain_nil⟩
  | cons x xs ih =>
    rw [rejectSchemaElems, unit_bind_ok, h x List.mem_cons_self,
      ih fun y hy => h y (List.mem_cons_of_mem x hy), WellDeclaredElems, schemaNamesElems,
      plain_append]
    exact and_and_and_comm

theorem rejectSchemaMembers_ok {ms : Json.Members} {path : String}
    (h : ∀ m ∈ ms, ∀ path,
      rejectSensitiveSchema path m.2 = .ok () ↔ WellDeclared m.2 ∧ Plain (schemaNames m.2)) :
    rejectSchemaMembers path ms = .ok () ↔
      WellDeclaredMembers ms ∧ Plain (schemaNamesMembers ms) := by
  induction ms with
  | nil => exact iff_of_true rfl ⟨trivial, plain_nil⟩
  | cons m ms ih =>
    obtain ⟨k, x⟩ := m
    rw [rejectSchemaMembers, unit_bind_ok, h (k, x) List.mem_cons_self,
      ih fun y hy => h y (List.mem_cons_of_mem (k, x) hy), WellDeclaredMembers, schemaNamesMembers,
      plain_append]
    exact and_and_and_comm

/-- **What the walk through a schema checks**: every declared and every
    required name, at any depth. -/
theorem rejectSensitiveSchema_ok (value : Json) (path : String) :
    rejectSensitiveSchema path value = .ok () ↔ WellDeclared value ∧ Plain (schemaNames value) := by
  induction value using Json.ind generalizing path with
  | arr xs ih =>
    rw [rejectSensitiveSchema, WellDeclared, schemaNames]
    exact rejectSchemaElems_ok ih
  | obj ms ih =>
    rw [rejectSensitiveSchema, unit_bind_ok, unit_bind_ok, rejectSensitiveProperties_ok,
      rejectSensitiveRequired_ok, rejectSchemaMembers_ok ih, WellDeclared, schemaNames, plain_append,
      plain_append]
    constructor
    · rintro ⟨⟨hd, hp⟩, ⟨hr, hn⟩, hm, hs⟩
      exact ⟨⟨hd, hr, hm⟩, ⟨hp, hn⟩, hs⟩
    · rintro ⟨⟨hd, hr, hm⟩, ⟨hp, hn⟩, hs⟩
      exact ⟨⟨hd, hp⟩, ⟨hr, hn⟩, hm, hs⟩
  | _ => exact iff_of_true rfl ⟨trivial, plain_nil⟩

/-! ## Section 3: Captures -/

/-- Among the names are credential-shaped ones, and all of them are
    surrounded. -/
def OnlySurrounded (names : List String) : Prop :=
  (∃ name ∈ names, CredentialShaped name) ∧ ∀ name ∈ names, CredentialShaped name → Surrounded name

theorem onlySurrounded_iff {names : List String} :
    OnlySurrounded names ↔ (∃ name ∈ names, CredentialShaped name) ∧ Plain names := by
  unfold OnlySurrounded
  refine and_congr_right fun _ => ?_
  constructor
  · intro h name hname
    by_contra hsensitive
    have hfound : isSensitiveName name = true := by simpa using hsensitive
    have hmissed := (missed_iff name).mpr (h name hname (.of_isSensitiveName hfound))
    rw [hfound] at hmissed
    exact absurd hmissed.2 (by decide)
  · intro h name hname hshaped
    exact (missed_iff name).mp ⟨hshaped, h name hname⟩

/-- A call that passes every check but the one for credential-shaped keys. -/
structure CallOtherwiseFit (call_id name : String) (arguments : Dict)
    (continuation : Option ProviderContinuation) : Prop where
  finite : validateModelMembers "tool arguments" arguments.members = .ok ()
  call_id_text : modelText call_id "tool call ID" = .ok ()
  name_fit : toolName name "tool call name" = .ok ()
  continuation_fit : ∀ turn, continuation = some turn →
    validateContinuationCall turn call_id name arguments = .ok ()

/-- A definition that passes every check but the one for credential-shaped
    names. -/
structure DefinitionOtherwiseFit (name description : String) (input_schema : Dict) : Prop where
  finite : validateModelMembers "tool input schema" input_schema.members = .ok ()
  name_fit : toolName name "tool name" = .ok ()
  description_text : modelText description "tool description" = .ok ()
  object : input_schema.get "type" = .str "object"
  declared : WellDeclared input_schema.json

theorem ToolCall.check_ok {call_id name : String} {arguments : Dict}
    {continuation : Option ProviderContinuation} :
    ToolCall.check call_id name arguments continuation = .ok () ↔
      CallOtherwiseFit call_id name arguments continuation ∧ Plain (deepKeys arguments.json) := by
  have hmembers := rejectSensitiveMembers_ok arguments.members "tool arguments"
  unfold ToolCall.check
  rw [unit_bind_ok, unit_bind_ok, unit_bind_ok, unit_bind_ok, hmembers]
  constructor
  · rintro ⟨hfinite, hid, hname, hplain, hcontinuation⟩
    refine ⟨⟨hfinite, hid, hname, ?_⟩, hplain⟩
    intro turn hturn
    rw [hturn] at hcontinuation
    exact hcontinuation
  · rintro ⟨h, hplain⟩
    refine ⟨h.finite, h.call_id_text, h.name_fit, hplain, ?_⟩
    split
    · next turn => exact h.continuation_fit turn rfl
    · rfl

theorem ToolDefinition.check_ok {name description : String} {input_schema : Dict} :
    ToolDefinition.check name description input_schema = .ok () ↔
      DefinitionOtherwiseFit name description input_schema ∧
        Plain (schemaNames input_schema.json) := by
  rw [ToolDefinition.check, unit_bind_ok, unit_bind_ok, unit_bind_ok, require_bind_ok,
    rejectSensitiveSchema_ok]
  constructor
  · rintro ⟨hfinite, hname, hdescription, hobject, hdeclared, hplain⟩
    exact ⟨⟨hfinite, hname, hdescription, hobject, hdeclared⟩, hplain⟩
  · rintro ⟨h, hplain⟩
    exact ⟨h.finite, h.name_fit, h.description_text, h.object, h.declared, hplain⟩

theorem ToolCall.capture_raises {call_id name : String} {arguments : Dict}
    {continuation : Option ProviderContinuation} :
    (∃ e, ToolCall.capture call_id name arguments continuation = .error e) ↔
      ¬ ToolCall.check call_id name arguments continuation = .ok () := by
  unfold ToolCall.capture
  split
  · next h => exact iff_of_false (fun ⟨e, he⟩ => nomatch he) (fun hn => hn h)
  · next e h => exact iff_of_true ⟨e, rfl⟩ (fun hn => nomatch hn.symm.trans h)

theorem ToolDefinition.capture_raises {name description : String} {input_schema : Dict} :
    (∃ e, ToolDefinition.capture name description input_schema = .error e) ↔
      ¬ ToolDefinition.check name description input_schema = .ok () := by
  unfold ToolDefinition.capture
  split
  · next h => exact iff_of_false (fun ⟨e, he⟩ => nomatch he) (fun hn => hn h)
  · next e h => exact iff_of_true ⟨e, rfl⟩ (fun hn => nomatch hn.symm.trans h)

theorem refused_iff {fit : Prop} {names : List String} :
    ((∃ name ∈ names, CredentialShaped name) → ¬ (fit ∧ Plain names)) ↔
      ¬ (fit ∧ OnlySurrounded names) := by
  rw [onlySurrounded_iff]
  constructor
  · rintro h ⟨hfit, hshaped, hplain⟩
    exact h hshaped ⟨hfit, hplain⟩
  · rintro h hshaped ⟨hfit, hplain⟩
    exact h ⟨hfit, hshaped, hplain⟩

/-- **Credential-shaped names are refused** by a capture exactly where they
    are not all surrounded ones in something that is fit otherwise. -/
theorem credential_names_refused_iff (call_id name description : String)
    (arguments input_schema : Dict) (continuation : Option ProviderContinuation) :
    (((∃ key ∈ deepKeys arguments.json, CredentialShaped key) →
        ∃ e, ToolCall.capture call_id name arguments continuation = .error e) ↔
      ¬ (CallOtherwiseFit call_id name arguments continuation ∧
        OnlySurrounded (deepKeys arguments.json))) ∧
    (((∃ declared ∈ schemaNames input_schema.json, CredentialShaped declared) →
        ∃ e, ToolDefinition.capture name description input_schema = .error e) ↔
      ¬ (DefinitionOtherwiseFit name description input_schema ∧
        OnlySurrounded (schemaNames input_schema.json))) := by
  constructor
  · rw [ToolCall.capture_raises, ToolCall.check_ok]
    exact refused_iff
  · rw [ToolDefinition.capture_raises, ToolDefinition.check_ok]
    exact refused_iff

/-- Arguments with one key between other words. -/
def surroundedArguments : Dict := Dict.of [("openai_api_key", .str "sk-1")] (by simp)

/-- The key goes through to the model. -/
theorem openai_api_key_captured :
    (∃ key ∈ deepKeys surroundedArguments.json, CredentialShaped key) ∧
      ¬ ∃ e, ToolCall.capture "call-1" "lookup" surroundedArguments none = .error e := by
  constructor
  · exact ⟨"openai_api_key", by decide, by decide⟩
  · rw [ToolCall.capture_raises]
    decide +kernel

end CBrain
