import SchemaTypes.Proofs.Declaration.Roles

/-!
# Literals of a class

The values of the constants of a class and the object of its value types are string literals. They
are read back as the texts that they were made of as long as no line ends in these: quotes and
backslashes are escaped, line ends are not.
-/

set_option autoImplicit false

namespace SchemaTypes

namespace Text

/-- Wherever it stands, the literal is read as the text and as nothing else. -/
def IsLiteral (literal text : String) : Prop :=
  ∀ rest : List Char, readLiteral (literal.toList ++ rest) = some (text.toList, rest)

theorem is_literal_iff (text : String) : IsLiteral (quoteLiteral text) text ↔ OneLine text := by
  constructor
  · intro h
    by_cases hl : OneLine text
    · exact hl
    · have hr := h []
      rw [read_quoted, if_neg hl] at hr
      cases hr
  · intro h rest
    rw [read_quoted, if_pos h]

def readMember (cs : List Char) : Option ((String × String) × List Char) :=
  match readLiteral cs with
  | some (key, ':' :: ' ' :: rest) =>
    (readLiteral rest).map fun value => ((.ofList key, .ofList value.1), value.2)
  | _ => none

def readMembers (cs : List Char) : Option (List (String × String)) :=
  match readMember cs with
  | some (m, [' ', '\x7d']) => some [m]
  | some (m, ',' :: ' ' :: rest) =>
    if rest.length < cs.length then (readMembers rest).map (m :: ·) else none
  | _ => none
termination_by cs.length

def readObject (text : String) : Option (List (String × String)) :=
  match text.toList with
  | ['\x7b', '\x7d'] => some []
  | '\x7b' :: ' ' :: rest => readMembers rest
  | _ => none

def memberText (m : String × String) : String := quoteLiteral m.1 ++ ": " ++ quoteLiteral m.2

theorem read_member (m : String × String) (hv : OneLine m.2) (rest : List Char) :
    readMember ((memberText m).toList ++ rest) = if OneLine m.1 then some (m, rest) else none := by
  have hk := read_quoted m.1 (": ".toList ++ ((quoteLiteral m.2).toList ++ rest))
  have hr := read_quoted m.2 rest
  rw [if_pos hv] at hr
  rw [readMember, memberText]
  simp only [String.toList_append, List.append_assoc]
  rw [hk]
  by_cases hl : OneLine m.1
  · simp [hl, hr]
  · simp [hl]

/-- Members whose values are of one line are read back exactly if their keys are. -/
theorem read_members_iff (m : String × String) (ms : List (String × String))
    (hv : ∀ n ∈ m :: ms, OneLine n.2) :
    readMembers ((", ".intercalate ((m :: ms).map memberText)).toList ++ [' ', '\x7d']) =
      some (m :: ms) ↔ ∀ n ∈ m :: ms, OneLine n.1 := by
  induction ms generalizing m with
  | nil =>
    have hm := read_member m (hv m (by simp)) [' ', '\x7d']
    rw [List.map_singleton, String.intercalate_singleton, readMembers, hm]
    by_cases hl : OneLine m.1 <;> simp [hl]
  | cons n ms ih =>
    obtain ⟨hm, hms⟩ := List.forall_mem_cons.mp hv
    have hrest := ih n hms
    generalize hr : (", ".intercalate ((n :: ms).map memberText)).toList ++ [' ', '\x7d'] = rest
      at hrest
    have ht : (", ".intercalate ((m :: n :: ms).map memberText)).toList ++ [' ', '\x7d'] =
        (memberText m).toList ++ (',' :: ' ' :: rest) := by
      rw [List.map_cons, List.map_cons, String.intercalate_cons_cons, ← List.map_cons, ← hr]
      simp
    have hlt : rest.length < ((memberText m).toList ++ (',' :: ' ' :: rest)).length := by
      simp only [List.length_append, List.length_cons]
      omega
    rw [ht, readMembers, read_member m hm, List.forall_mem_cons, ← hrest]
    by_cases hl : OneLine m.1
    · simp only [hl, if_true, hlt, true_and]
      cases readMembers rest <;> simp
    · simp [hl]

end Text

namespace Declaration

def valueTypes (c : Config) (rows : TypedColumns) : List (String × String) :=
  rows.map fun r => (c.style.name r.1.field, valueType r.2.name)

theorem one_line_value_type (type : PropertyType) : Text.OneLine (valueType type.name) := by
  cases type <;> decide

theorem types_object_read_iff (c : Config) (rows : TypedColumns) :
    Text.readObject (typesObject c rows) = some (valueTypes c rows) ↔
      ∀ r ∈ rows, Text.OneLine (c.style.name r.1.field) := by
  cases rows with
  | nil =>
    have he : Text.readObject "\x7b\x7d" = some [] := by decide +kernel
    exact iff_of_true he (by simp)
  | cons r rows =>
    have hv : ∀ n ∈ valueTypes c (r :: rows), Text.OneLine n.2 := by
      intro n hn
      obtain ⟨q, -, rfl⟩ := List.mem_map.mp hn
      exact one_line_value_type q.2
    have hm := Text.read_members_iff _ _ hv
    have ht : (typesObject c (r :: rows)).toList = '\x7b' :: ' ' ::
        ((", ".intercalate ((valueTypes c (r :: rows)).map Text.memberText)).toList ++
          [' ', '\x7d']) := by
      simp [typesObject, valueTypes, Text.memberText, Function.comp_def]
    have hn : (∀ n ∈ valueTypes c (r :: rows), Text.OneLine n.1) ↔
        ∀ q ∈ r :: rows, Text.OneLine (c.style.name q.1.field) :=
      List.forall_mem_map
    rw [← hn, Text.readObject, ht]
    exact hm

end Declaration

namespace Statement

theorem statements_one_line_iff {table : String} {all shown : List Column} :
    (∀ s ∈ ofColumns table all shown, Text.OneLine s.sql) ↔
      Text.OneLine table ∧ (∀ n ∈ fields shown, Text.OneLine n) ∧
      ∀ n ∈ fields (all.filter Column.isPrimaryKey), Text.OneLine n := by
  simp only [one_line_sql_iff]
  constructor
  · intro h
    have ha := h (selectAll table (fields shown)) (mem_of_columns_iff.mpr (.inr (.inl rfl)))
    obtain ⟨ht, hs⟩ := List.forall_mem_cons.mp ha
    refine ⟨ht, hs, ?_⟩
    by_cases hk : all.filter Column.isPrimaryKey = []
    · simp [hk, fields]
    · have hd := h (deleteByKey table (fields (all.filter Column.isPrimaryKey)))
        (mem_of_columns_iff.mpr
          (.inr (.inr (.inr ⟨hk, mem_by_key_iff.mpr (.inr (.inr rfl))⟩))))
      exact (List.forall_mem_cons.mp hd).2
  · rintro ⟨ht, hs, hk⟩ s hm n hn
    rcases List.mem_cons.mp (names_of_columns hm hn) with rfl | hf
    · exact ht
    · rcases List.mem_append.mp hf with hf | hf
      · exact hs n hf
      · exact hk n hf

end Statement

namespace Table
open Statement

/-- The value of every constant of a class is a literal for the text of its statement exactly if no
line ends in that text; so all are exactly if no line ends in the names of the table, of its
declared columns and of its key. The object of value types is read back as the names and types of
the properties exactly if no line ends in these names. No other character matters. -/
theorem literals_read_back_iff [PatternEngine] (t : Table) (c : Config) {omitted : List Matcher}
    (ho : t.omitted? = some omitted) :
    ∃ (rows : TypedColumns) (texts : List (String × String)),
      c.Declares omitted t.columns rows ∧
      texts = (ofColumns t.name t.columns (rows.map Prod.fst)).map titled ∧
      t.render c = .ok (t.layout c rows (texts.map Sql.asLiteral)) ∧
      (∀ m ∈ texts, Text.IsLiteral (Sql.asLiteral m).2 m.2 ↔ Text.OneLine m.2) ∧
      ((∀ m ∈ texts, Text.IsLiteral (Sql.asLiteral m).2 m.2) ↔
        Text.OneLine t.name ∧ ∀ column ∈ t.columns,
          c.declares omitted column = true ∨ column.isPrimaryKey = true →
          Text.OneLine column.field) ∧
      (Text.readObject (Declaration.typesObject c rows) = some (Declaration.valueTypes c rows) ↔
        ∀ column ∈ t.columns, c.declares omitted column = true →
          Text.OneLine (c.style.name column.field)) := by
  obtain ⟨rows, hrows, hr⟩ := t.rendered_over c ho
  have hshown : ∀ p : Column → Prop, (∀ r ∈ rows, p r.1) ↔
      ∀ column ∈ t.columns, c.declares omitted column = true → p column := by
    intro p
    have hm := List.forall_mem_map (f := Prod.fst) (l := rows) (P := p)
    rw [← hm, hrows.columns_kept]
    simp [List.mem_filter]
  have hliteral : ∀ m : String × String,
      Text.IsLiteral (Sql.asLiteral m).2 m.2 ↔ Text.OneLine m.2 :=
    fun m => Text.is_literal_iff m.2
  refine ⟨rows, _, hrows, rfl, ?_, fun m _ => hliteral m, ?_, ?_⟩
  · rw [hr, List.map_map]
    rfl
  · simp only [hliteral, List.forall_mem_map]
    refine statements_one_line_iff.trans ?_
    rw [hrows.columns_kept, fields, fields, List.forall_mem_map, List.forall_mem_map]
    simp [or_imp, forall_and]
  · rw [Declaration.types_object_read_iff]
    exact hshown fun column => Text.OneLine (c.style.name column.field)

def copied (names : List String) : Table where
  name := "it\x27s\t\\"
  kind := .classDecl
  database := "shop"
  suffix := "model"
  connector := "-"
  file := "copied"
  omitPatterns := []
  withConstructor := true
  withStatements := true
  columns := names.map fun name => .ofListing name "int" "NO" none none none

theorem control_characters_read_back :
    ∃ (rows : TypedColumns) (texts : List (String × String)),
      rows.map (·.1.field) = ["\\\x27", "\x00\t"] ∧
      (copied ["\\\x27", "\x00\t"]).render {} =
        .ok ((copied ["\\\x27", "\x00\t"]).layout {} rows (texts.map Sql.asLiteral)) ∧
      (∀ m ∈ texts, Text.IsLiteral (Sql.asLiteral m).2 m.2) ∧
      Text.readObject (Declaration.typesObject {} rows) =
        some [("\\\x27", "number"), ("\x00\t", "number")] := by
  obtain ⟨rows, texts, hrows, -, hr, -, hliterals, hobject⟩ :=
    literals_read_back_iff (copied ["\\\x27", "\x00\t"]) {} (show _ = some [] from rfl)
  have hd : rows = [(.ofListing "\\\x27" "int" "NO" none none none, .number),
      (.ofListing "\x00\t" "int" "NO" none none none, .number)] :=
    hrows.unique ⟨by decide +kernel, by decide +kernel⟩
  have hv : Declaration.valueTypes {} rows = [("\\\x27", "number"), ("\x00\t", "number")] := by
    rw [hd]
    decide +kernel
  refine ⟨rows, texts, ?_, hr, hliterals.mpr (by decide +kernel), ?_⟩
  · rw [hd]
    decide +kernel
  · rw [← hv]
    exact hobject.mpr (by decide +kernel)

def broken : Table := { copied ["a\nb"] with name := "users", withStatements := false }

theorem line_end_breaks_literal :
    broken.omitted? = some [] ∧
    broken.render {} = .ok ("export class UsersModel \x7b\n    a\nb: number;\n" ++
      ("\n" ++ Declaration.copyingConstructor 4 "UsersModel"
        ("\x7b " ++ Text.quoteLiteral "a\nb" ++ ": " ++ Text.quoteLiteral "number" ++ " \x7d")) ++
      "\x7d\n") ∧
    Text.quoteLiteral "a\nb" = "\x27a\nb\x27" ∧
    Text.readLiteral "\x27a\nb\x27: \x27number\x27 \x7d".toList = none ∧
    ¬ Text.IsLiteral "\x27a\nb\x27" "a\nb" := by
  have hn : Text.readLiteral ("\x27a\nb\x27".toList ++ []) = none := by decide +kernel
  refine ⟨rfl, congrArg Except.ok (by decide +kernel), by decide +kernel, by decide +kernel, ?_⟩
  intro h
  rw [h []] at hn
  cases hn

end Table

end SchemaTypes
