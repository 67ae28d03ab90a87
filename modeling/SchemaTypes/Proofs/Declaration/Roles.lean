import SchemaTypes.Proofs.Declaration.Statements

/-!
# Which columns a statement is over

Selections are over the declared columns and insertions over those of them that the server does not
count itself. A condition is over the whole key of the table, declared or not, and there are
statements by key only if there is a key. An update sets the declared columns outside the key and
needs one of them.
-/

set_option autoImplicit false

namespace SchemaTypes

namespace Sql

def asLiteral (m : String × String) : String × String := (m.1, Text.quoteLiteral m.2)

theorem mem_of_intercalate {separator : List Token} {parts : List (List Token)} {x : Token}
    (h : x ∈ separator.intercalate parts) : x ∈ separator ∨ ∃ part ∈ parts, x ∈ part := by
  induction parts with
  | nil => cases h
  | cons part parts ih =>
    cases parts with
    | nil => exact .inr ⟨part, List.mem_cons_self, by simpa using h⟩
    | cons next parts =>
      rw [List.intercalate_cons_cons, List.mem_append, List.mem_append] at h
      rcases h with (h | h) | h
      · exact .inr ⟨part, List.mem_cons_self, h⟩
      · exact .inl h
      · exact (ih h).imp id fun ⟨p, hp, hm⟩ => ⟨p, List.mem_cons_of_mem _ hp, hm⟩

theorem mem_listed {names : List String} {x : Token} (h : x ∈ listed names) :
    x = .sign ',' ∨ ∃ n, x = .name n := by
  rcases mem_of_intercalate h with hs | ⟨part, hp, hx⟩
  · exact .inl (List.mem_singleton.mp hs)
  · obtain ⟨n, -, rfl⟩ := List.mem_map.mp hp
    exact .inr ⟨n, List.mem_singleton.mp hx⟩

theorem count_listed (names : List String) : (listed names).count (.sign '?') = 0 := by
  refine List.count_eq_zero.mpr fun h => ?_
  rcases mem_listed h with hc | ⟨n, hn⟩
  · exact absurd hc (by decide)
  · cases hn

end Sql

namespace Statement

def titled (s : Statement) : String × String := (s.name, s.sql)

variable {table : String} {all shown : List Column}

end Statement

namespace Table

def classLayout (t : Table) (c : Config) (rows : TypedColumns)
    (constants : List (String × String)) : String :=
  Declaration.opening .classDecl (c.declarationName t) ++
  String.join (rows.map (Declaration.propertyLine c)) ++
  ("\n" ++ Declaration.constantLines c.tabSize constants) ++
  (if t.hasConstructor then
    "\n" ++ Declaration.copyingConstructor c.tabSize (c.declarationName t)
      (Declaration.typesObject c rows)
  else "") ++
  Declaration.closing .classDecl

theorem layout_of_class {t : Table} (hs : t.hasStatements = true) (c : Config) (rows : TypedColumns)
    (constants : List (String × String)) :
    t.layout c rows constants = t.classLayout c rows constants := by
  have hk : t.kind = .classDecl := by
    rw [hasStatements, Bool.and_eq_true, beq_iff_eq] at hs
    exact hs.1
  rw [layout, classLayout, hk, if_pos hs]

theorem class_rendered [PatternEngine] (t : Table) (c : Config) {omitted : List Matcher}
    (ho : t.omitted? = some omitted) (hs : t.hasStatements = true) :
    ∃ rows, c.Declares omitted t.columns rows ∧
      t.render c = .ok (t.classLayout c rows
        (((Statement.ofColumns t.name t.columns (rows.map Prod.fst)).map Statement.titled).map
          Sql.asLiteral)) := by
  obtain ⟨rows, hrows, hr⟩ := t.rendered_over c ho
  refine ⟨rows, hrows, ?_⟩
  rw [hr, layout_of_class hs, List.map_map]
  rfl

def seats : Table where
  name := "seats"
  kind := .classDecl
  database := "shop"
  suffix := "model"
  connector := "-"
  file := "seats"
  omitPatterns := ["^room$"]
  withConstructor := false
  withStatements := true
  columns :=
    [ .ofListing "tenant" "binary(16)" "NO" (some "PRI") none none,
      .ofListing "room" "int" "NO" (some "PRI") none none,
      .ofListing "seat" "int" "NO" (some "UNI") none (some "auto_increment"),
      .ofListing "guest" "varchar(64)" "YES" none none none ]

end Table

end SchemaTypes
