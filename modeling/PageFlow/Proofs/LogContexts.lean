import PageFlow.Log

/-!
# Contexts of log records

Looking up names in the contexts that loggers are made of. A context that was
put together from others names every value once, so that it says of a name what
the last of its parts that knows the name says.
-/

namespace PageFlow

/-! ## Members -/

namespace Json

variable {members : List (String × Json)} {name other : String} {value : Json}

@[simp] theorem find?_nil (name : String) : find? [] name = none :=
  rfl

theorem find?_cons (first : String) (value : Json)
    (members : List (String × Json)) (name : String) :
    find? ((first, value) :: members) name = if first = name then some value
      else find? members name :=
  rfl

theorem find?_eq_none_iff :
    find? members name = none ↔ name ∉ members.map Prod.fst := by
  induction members with
  | nil => simp
  | cons member members induction =>
      rw [find?_cons]
      by_cases same : member.1 = name
      · simp [same]
      · simp [same, induction, Ne.symm same]

theorem find?_append (members later : List (String × Json)) (name : String) :
    find? (members ++ later) name =
      (find? members name).or (find? later name) := by
  induction members with
  | nil => rfl
  | cons member members induction =>
      rw [List.cons_append, find?_cons, find?_cons, induction]
      split <;> rfl

theorem find?_insertMember (members : List (String × Json)) (name : String)
    (value : Json) (other : String) :
    find? (insertMember members name value) other =
      if name = other then some value else find? members other := by
  induction members with
  | nil => rfl
  | cons member members induction =>
      rw [insertMember]
      by_cases here : member.1 = name
      · rw [if_pos here, find?_cons, find?_cons, here]
        split <;> rfl
      · rw [if_neg here, find?_cons, find?_cons, induction]
        by_cases same : member.1 = other
        · rw [if_pos same, if_pos same,
            if_neg fun later => here (same.trans later.symm)]
        · rw [if_neg same, if_neg same]

theorem names_insertMember (members : List (String × Json)) (name : String)
    (value : Json) :
    (insertMember members name value).map Prod.fst =
      if name ∈ members.map Prod.fst then members.map Prod.fst
      else members.map Prod.fst ++ [name] := by
  induction members with
  | nil => rfl
  | cons member members induction =>
      rw [insertMember]
      by_cases here : member.1 = name
      · simp [here]
      · have apart : ¬ name = member.1 := Ne.symm here
        rw [if_neg here, List.map_cons, induction]
        by_cases among : name ∈ members.map Prod.fst <;> simp [among, apart]

end Json

/-! ## Contexts -/

namespace LogContext

variable {context values : LogContext} {name : String}

/-- Every name stands for one value. -/
def Distinct (context : LogContext) : Prop :=
  (context.map Prod.fst).Nodup

instance (context : LogContext) : Decidable context.Distinct :=
  inferInstanceAs (Decidable (List.Nodup _))

theorem distinct_nil : Distinct [] :=
  List.nodup_nil

theorem Distinct.insertMember (distinct : context.Distinct) (name : String)
    (value : Json) :
    Distinct (Json.insertMember context name value) := by
  rw [Distinct, Json.names_insertMember]
  split
  · exact distinct
  · rename_i new
    refine List.nodup_append.mpr ⟨distinct, by simp, ?_⟩
    intro member among other last same
    exact new (List.mem_singleton.mp last ▸ same ▸ among)

theorem Distinct.find?_reverse (distinct : context.Distinct) (name : String) :
    Json.find? context.reverse name = Json.find? context name := by
  induction context with
  | nil => rfl
  | cons entry context induction =>
      obtain ⟨first, value⟩ := entry
      obtain ⟨new, distinct⟩ := List.nodup_cons.mp distinct
      rw [List.reverse_cons, Json.find?_append, induction distinct,
        Json.find?_cons, Json.find?_cons]
      by_cases same : first = name
      · rw [if_pos same, Json.find?_eq_none_iff.mpr (same ▸ new), if_pos same]
        rfl
      · rw [if_neg same, if_neg same, Json.find?_nil, Option.or_none]

theorem merge_cons (context : LogContext) (name : String) (value : Json)
    (values : LogContext) :
    merge context ((name, value) :: values) =
      merge (Json.insertMember context name value) values :=
  rfl

theorem Distinct.merge (distinct : context.Distinct) (values : LogContext) :
    (context.merge values).Distinct := by
  induction values generalizing context with
  | nil => exact distinct
  | cons entry values induction =>
      exact induction (distinct.insertMember entry.1 entry.2)

theorem find?_merge (context values : LogContext) (name : String) :
    Json.find? (context.merge values) name =
      (Json.find? values.reverse name).or (Json.find? context name) := by
  induction values generalizing context with
  | nil => rfl
  | cons entry values induction =>
      obtain ⟨first, value⟩ := entry
      rw [merge_cons, induction, Json.find?_insertMember, List.reverse_cons,
        Json.find?_append, Option.or_assoc, Json.find?_cons]
      split <;> rfl

theorem Distinct.without (distinct : context.Distinct) (names : List String) :
    (context.without names).Distinct :=
  distinct.sublist (List.filter_sublist.map Prod.fst)

@[simp] theorem without_nil (context : LogContext) :
    context.without [] = context := by
  simp [without]

theorem find?_without (context : LogContext) (names : List String)
    (name : String) :
    Json.find? (context.without names) name =
      if name ∈ names then none else Json.find? context name := by
  induction context with
  | nil => simp [without]
  | cons entry context induction =>
      obtain ⟨first, value⟩ := entry
      rw [without] at induction
      rw [without, List.filter_cons, Json.find?_cons]
      by_cases dropped : first ∈ names
      · rw [if_neg (by simpa using dropped), induction]
        by_cases same : first = name
        · rw [if_pos (same ▸ dropped), if_pos (same ▸ dropped)]
        · rw [if_neg same]
      · rw [if_pos (by simpa using dropped), Json.find?_cons, induction]
        by_cases same : first = name
        · rw [if_pos same, if_neg (same ▸ dropped), if_pos same]
        · rw [if_neg same, if_neg same]

end LogContext

/-! ## Loggers -/

namespace Log

@[simp] theorem unbind_nil (log : Log) : log.unbind [] = log := by
  rw [unbind, LogContext.without_nil]

/-- A scoped logger knows the values that it was made with, then what its parent
knows, then what was bound when it was made. -/
theorem find?_withContext {log : Log} {parent : Logger}
    (distinct : (log.contextOf parent).Distinct) (values : LogContext)
    (name : String) :
    Json.find? (log.contextOf (log.withContext parent values)) name =
      (Json.find? values.reverse name).or
        ((Json.find? (log.contextOf parent) name).or
          (Json.find? log.bound name)) := by
  change Json.find? ((log.bound.merge (log.contextOf parent)).merge values)
    name = _
  rw [LogContext.find?_merge, LogContext.find?_merge, distinct.find?_reverse]

theorem distinct_withContext {log : Log} (distinct : log.bound.Distinct)
    (parent : Logger) (values : LogContext) :
    (log.contextOf (log.withContext parent values)).Distinct :=
  (distinct.merge _).merge _

end Log

end PageFlow
