import Mathlib.Control.Monad.Basic
import SchemaTypes.Config.Reader
import SchemaTypes.Pattern.Reader
import SchemaTypes.Proofs.Output.Accumulation
import SchemaTypes.Proofs.Run.Writing

/-!
# Which declarations survive a run

A run that rewrites empties a file when it writes it under a spelling that is new to the run. The
file may have been written before under another spelling; then it loses what it held. This is the
only way in which a declaration is lost.
-/

set_option autoImplicit false

namespace SchemaTypes

namespace FileTree

def Opens (t : FileTree) (l : Location) (earlier : List Entry) (e : Entry) : Prop :=
  t.locate e.path = l ∧ Entry.mentions earlier e.path = false

/-- Some write of `later`, which come after `earlier`, empties the file at a location. -/
def Emptied (t : FileTree) (l : Location) : List Entry → List Entry → Prop
  | _, [] => False
  | earlier, e :: rest => t.Opens l earlier e ∨ t.Emptied l (earlier ++ [e]) rest

/-- The declaration `e` of a run is still in its file at the end: either no later write empties
the file, or it occurs in what has been written since the last that does. -/
def Survives (t : FileTree) (before : List Entry) (e : Entry) (after : List Entry) : Prop :=
  ¬ t.Emptied (t.locate e.path) (before ++ [e]) after ∨
  ∃ middle f rest, after = middle ++ f :: rest ∧
    t.Opens (t.locate e.path) (before ++ e :: middle) f ∧
    ¬ t.Emptied (t.locate e.path) (before ++ e :: middle ++ [f]) rest ∧
    e.code.toList <:+: ((t.codesAt (t.locate e.path) rest).foldl joined f.code).toList

theorem joined_contains_old (old addition : String) :
    old.toList <:+: (joined old addition).toList := by
  unfold joined
  split
  · next he =>
    have hn : old = "" := by simpa using he
    simp [hn]
  · exact ⟨[], "\n".toList ++ addition.toList, by simp⟩

theorem joined_contains_new (old addition : String) :
    addition.toList <:+: (joined old addition).toList := by
  unfold joined
  split
  · exact List.infix_refl _
  · exact ⟨old.toList ++ "\n".toList, [], by simp⟩

theorem joined_all_contain (codes : List String) (old : String) :
    old.toList <:+: (codes.foldl joined old).toList := by
  induction codes generalizing old with
  | nil => exact List.infix_refl _
  | cons code codes ih => exact (joined_contains_old old code).trans (ih _)

theorem content_after_last (t : FileTree) (l : Location) (earlier : List Entry) (e : Entry) :
    t.contentAfterWrites true l (earlier ++ [e]).reverse =
      if t.locate e.path = l then
        some (contentAfter (!Entry.mentions earlier e.path)
          (t.contentAfterWrites true l earlier.reverse) e.code)
      else t.contentAfterWrites true l earlier.reverse := by
  simp [contentAfterWrites, Entry.mentions]

theorem opened_content {t : FileTree} {l : Location} {earlier : List Entry} {e : Entry}
    (h : t.Opens l earlier e) :
    t.contentAfterWrites true l (earlier ++ [e]).reverse = some e.code := by
  rw [content_after_last, if_pos h.1, h.2]
  rfl

theorem steady_content {t : FileTree} {l : Location} {earlier later : List Entry} {old : String}
    (ho : t.contentAfterWrites true l earlier.reverse = some old)
    (hs : ¬ t.Emptied l earlier later) :
    t.contentAfterWrites true l (earlier ++ later).reverse =
      some ((t.codesAt l later).foldl joined old) := by
  induction later generalizing earlier old with
  | nil => simpa [codesAt] using ho
  | cons e rest ih =>
    simp only [Emptied, not_or] at hs
    have hl := content_after_last t l earlier e
    rw [ho] at hl
    have hsplit : earlier ++ e :: rest = (earlier ++ [e]) ++ rest := by simp
    by_cases he : t.locate e.path = l
    · have hm : Entry.mentions earlier e.path = true :=
        Bool.of_not_eq_false fun h => hs.1 ⟨he, h⟩
      rw [if_pos he, hm] at hl
      rw [hsplit, ih hl hs.2]
      simp [codesAt, he, contentAfter]
    · rw [if_neg he] at hl
      rw [hsplit, ih hl hs.2]
      simp [codesAt, he]

theorem emptied_last {t : FileTree} {l : Location} {earlier later : List Entry}
    (h : t.Emptied l earlier later) :
    ∃ middle f rest, later = middle ++ f :: rest ∧ t.Opens l (earlier ++ middle) f ∧
      ¬ t.Emptied l (earlier ++ middle ++ [f]) rest := by
  induction later generalizing earlier with
  | nil => exact h.elim
  | cons e rest ih =>
    by_cases hr : t.Emptied l (earlier ++ [e]) rest
    · obtain ⟨middle, f, rest', rfl, ho, hn⟩ := ih hr
      exact ⟨e :: middle, f, rest', rfl, by simpa using ho, by simpa using hn⟩
    · have ho : t.Opens l earlier e := h.resolve_right hr
      exact ⟨[], e, rest, rfl, by simpa using ho, by simpa using hr⟩

/-- From the last time it was emptied, a file has every declaration that went to it. -/
theorem content_since {t : FileTree} {l : Location} {earlier : List Entry} {f : Entry}
    {rest : List Entry} (ho : t.Opens l earlier f) (hn : ¬ t.Emptied l (earlier ++ [f]) rest) :
    t.contentAfterWrites true l (earlier ++ f :: rest).reverse =
      some ((t.codesAt l rest).foldl joined f.code) := by
  have hcut : earlier ++ f :: rest = (earlier ++ [f]) ++ rest := by simp
  rw [hcut]
  exact steady_content (opened_content ho) hn

theorem kept_content {t : FileTree} {before : List Entry} {e : Entry} {after : List Entry}
    (hn : ¬ t.Emptied (t.locate e.path) (before ++ [e]) after) :
    ∃ content, t.contentAfterWrites true (t.locate e.path) (before ++ e :: after).reverse =
      some content ∧ e.code.toList <:+: content.toList := by
  have hl := content_after_last t (t.locate e.path) before e
  rw [if_pos rfl] at hl
  have hc := steady_content hl hn
  have hcut : before ++ e :: after = (before ++ [e]) ++ after := by simp
  rw [← hcut] at hc
  refine ⟨_, hc, List.IsInfix.trans ?_ (joined_all_contain _ _)⟩
  unfold contentAfter
  split
  · exact List.infix_refl _
  · exact joined_contains_new _ _

theorem survives_iff (t : FileTree) (before : List Entry) (e : Entry) (after : List Entry) :
    ∃ content, t.contentAfterWrites true (t.locate e.path) (before ++ e :: after).reverse =
        some content ∧
      (e.code.toList <:+: content.toList ↔ t.Survives before e after) := by
  have hcut : ∀ middle f rest, before ++ e :: (middle ++ f :: rest) =
      (before ++ e :: middle) ++ f :: rest := fun middle f rest => by simp
  by_cases hem : t.Emptied (t.locate e.path) (before ++ [e]) after
  · obtain ⟨middle, f, rest, rfl, ho, hn⟩ := emptied_last hem
    simp only [List.append_assoc, List.singleton_append] at ho hn
    have hn' : ¬ t.Emptied (t.locate e.path) (before ++ e :: middle ++ [f]) rest := by
      simpa using hn
    have hc := content_since ho hn'
    rw [← hcut] at hc
    refine ⟨_, hc, fun hi => Or.inr ⟨middle, f, rest, rfl, ho, hn', hi⟩, ?_⟩
    rintro (hne | ⟨middle', f', rest', hafter, ho', hn'', hi⟩)
    · exact absurd hem hne
    · rw [hafter, hcut, content_since ho' hn''] at hc
      exact Option.some.inj hc ▸ hi
  · obtain ⟨content, hc, hi⟩ := kept_content hem
    exact ⟨content, hc, fun _ => Or.inl hem, fun _ => hi⟩

theorem apart_never_emptied {t : FileTree} {l : Location} {earlier later : List Entry}
    (ha : t.Apart ((earlier ++ later).map Entry.path)) (hm : ∃ e ∈ earlier, t.locate e.path = l) :
    ¬ t.Emptied l earlier later := by
  induction later generalizing earlier with
  | nil => exact id
  | cons f rest ih =>
    rintro (⟨hl, hn⟩ | hr)
    · obtain ⟨e, he, hel⟩ := hm
      have hs : Path.same f.path e.path = true :=
        ha f.path (by simp) e.path (by simpa using Or.inl ⟨e, he, rfl⟩) (hl.trans hel.symm)
      exact List.any_eq_false.mp hn e he hs
    · refine ih (by simpa using ha) ?_ hr
      obtain ⟨e, he, hel⟩ := hm
      exact ⟨e, by simp [he], hel⟩

theorem Apart.survives {t : FileTree} {before : List Entry} {e : Entry} {after : List Entry}
    (ha : t.Apart ((before ++ e :: after).map Entry.path)) : t.Survives before e after :=
  Or.inl (apart_never_emptied (by simpa using ha) ⟨e, by simp, rfl⟩)

end FileTree

theorem write_all_follows [PatternEngine] {c : Config} {start : FileTree} {ts : List Table}
    {history : List Entry} {w : Writer} {world world' : World} {report : Report}
    (hf : w.Follows start history world.tree)
    (h : writeAll c w world ts = (world', .ok report)) :
    ∃ written : List (Table × Entry),
      report.written = written.map (fun s => (s.1.name, s.2.path)) ∧
      (written.map Prod.fst).Sublist ts ∧
      (∀ s ∈ written, s.1.render c = .ok s.2.code ∧ s.2.path = w.outputPath s.1.file) ∧
      ∃ w' : Writer, w'.reWrite = w.reWrite ∧
        w'.Follows start ((written.map Prod.snd).reverse ++ history) world'.tree := by
  induction ts generalizing history w world report with
  | nil =>
    cases h
    exact ⟨[], rfl, List.Sublist.refl _, by simp, w, rfl, hf⟩
  | cons t ts ih =>
    rcases write_all_step h with ⟨-, rest, hl, rfl⟩ | ⟨-, code, w₁, world₁, rest, hcode, hl, hstep⟩
    · obtain ⟨written, hr, hs, hw, hlast⟩ := ih hf hl
      exact ⟨written, hr, hs.cons t, hw, hlast⟩
    · rcases hstep with ⟨path, hstep, rfl⟩ | ⟨failure, hstep, rfl⟩
      · obtain ⟨rfl, hd, hre, hf₁⟩ := Writer.follows_write hf hstep
        obtain ⟨written, hr, hs, hw, w', hre', hlast⟩ := ih hf₁ hl
        refine ⟨(t, ⟨w.outputPath t.file, code⟩) :: written, ?_, hs.cons_cons t, ?_, w',
          hre'.trans hre, by simpa using hlast⟩
        · simp [Report.addWritten, hr]
        · intro s hsm
          rcases List.mem_cons.mp hsm with rfl | hsm
          · exact ⟨hcode, rfl⟩
          · obtain ⟨hrender, hpath⟩ := hw s hsm
            exact ⟨hrender, hpath.trans (Writer.output_path_of_dir hd _)⟩
      · obtain ⟨rfl, rfl, hf₁⟩ := Writer.follows_failure hf hstep
        obtain ⟨written, hr, hs, hw, hlast⟩ := ih hf₁ hl
        exact ⟨written, hr, hs.cons t, hw, hlast⟩

theorem run_written [PatternEngine] {c : Config} {source : Source} {world : World} {report : Report}
    (hre : c.reWrite = true) (hd : c.dryRun = false)
    (h : (generate c source world).result = .ok report) :
    ∃ (ts : List Table) (written : List (Table × Entry)),
      (c.fetchTables source).result = .ok ts ∧
      (written.map Prod.fst).Sublist ts ∧
      report.written = written.map (fun s => (s.1.name, s.2.path)) ∧
      (∀ s ∈ written, s.1.render c = .ok s.2.code ∧ s.2.path = c.writer.outputPath s.1.file) ∧
      ∀ s ∈ written, (generate c source world).world.tree.read? s.2.path =
        world.tree.contentAfterWrites true (world.tree.locate s.2.path)
          (written.map Prod.snd).reverse := by
  obtain ⟨ts, hts, hrun⟩ := run_stages h
  obtain ⟨written, hr, hs, hw, w', hre', hf⟩ :=
    write_all_follows (Writer.follows_start c.writer world.tree hd rfl) hrun
  rw [List.append_nil] at hf
  refine ⟨ts, written, hts, hs, hr, hw, fun s hsm => ?_⟩
  have hfile : Path.endsAsDirectory s.2.path = false := by
    rw [(hw s hsm).2]
    exact Writer.output_names_file _ _
  have hentry : s.2 ∈ (written.map Prod.snd).reverse :=
    List.mem_reverse.mpr (List.mem_map_of_mem hsm)
  have hrewrite : w'.reWrite = true := hre'.trans hre
  rw [FileTree.read_target hfile (hf.resolved s.2 hentry), hf.content, hrewrite]

/-- Where the reported paths are apart, every reported table has its declaration in its file. -/
theorem apart_run_loses_nothing [PatternEngine] {c : Config} {source : Source} {world : World}
    {report : Report} (hre : c.reWrite = true) (hd : c.dryRun = false)
    (h : (generate c source world).result = .ok report)
    (ha : world.tree.Apart (report.written.map Prod.snd)) :
    ∀ line ∈ report.written, ∃ (t : Table) (code content : String), t.name = line.1 ∧
      t.render c = .ok code ∧
      (generate c source world).world.tree.read? line.2 = some content ∧
      code.toList <:+: content.toList := by
  obtain ⟨ts, written, -, -, hr, hw, hread⟩ := run_written hre hd h
  rw [hr] at ha ⊢
  intro line hl
  obtain ⟨s, hsm, rfl⟩ := List.mem_map.mp hl
  obtain ⟨before, after, rfl⟩ := List.append_of_mem hsm
  obtain ⟨content, hcontent, hiff⟩ :=
    world.tree.survives_iff (before.map Prod.snd) s.2 (after.map Prod.snd)
  refine ⟨s.1, s.2.code, content, rfl, (hw s hsm).1, ?_, hiff.mpr (FileTree.Apart.survives ?_)⟩
  · rw [hread s hsm, ← hcontent]
    simp
  · simpa [Function.comp_def] using ha

/-- After a run that rewrites, the file of a reported table holds the table's declaration exactly
if no later declaration of the run was written to this file under a spelling that was new then,
or if the text has come back with the last such declaration or after it. -/
theorem declaration_survives_iff [PatternEngine] {c : Config} {source : Source} {world : World}
    {report : Report} (hre : c.reWrite = true) (hd : c.dryRun = false)
    (h : (generate c source world).result = .ok report) :
    ∃ (ts : List Table) (written : List (Table × Entry)),
      (c.fetchTables source).result = .ok ts ∧
      (written.map Prod.fst).Sublist ts ∧
      report.written = written.map (fun s => (s.1.name, s.2.path)) ∧
      (∀ s ∈ written, s.1.render c = .ok s.2.code ∧ s.2.path = c.writer.outputPath s.1.file) ∧
      ∀ before s after, written = before ++ s :: after →
        ∃ content, (generate c source world).world.tree.read? s.2.path = some content ∧
          (s.2.code.toList <:+: content.toList ↔
            world.tree.Survives (before.map Prod.snd) s.2 (after.map Prod.snd)) := by
  obtain ⟨ts, written, hts, hs, hr, hw, hread⟩ := run_written hre hd h
  refine ⟨ts, written, hts, hs, hr, hw, ?_⟩
  rintro before s after rfl
  obtain ⟨content, hcontent, hiff⟩ :=
    world.tree.survives_iff (before.map Prod.snd) s.2 (after.map Prod.snd)
  refine ⟨content, ?_, hiff⟩
  rw [hread s (by simp), ← hcontent]
  simp

def respelledSettings : Json := .object [("driver", .string "mysql"),
  ("driverOptions", .object [("host", .string "h"), ("user", .string "u")]),
  ("dir", .string "out"), ("defaultDb", .string "shop"), ("reWrite", .bool true),
  ("tables", .array [
    .object [("name", .string "users"), ("file", .string "models")],
    .object [("name", .string "orders"), ("file", .string "x/../models")]])]

def respelledOutput : Config where
  connect := { host := "h", user := "u" }
  dir := "out"
  defaultDb := "shop"
  reWrite := true

def respelledTable (name file : String) : Table :=
  { respelledOutput.bareTable name with file := file }

def respelled : Config :=
  { respelledOutput with
    tables := [respelledTable "users" "models", respelledTable "orders" "x/../models"] }

def oneColumn : List Column := [.ofListing "id" "int" "NO" none none none]

def alikeTables : Source where
  list _ _ := .ok []
  columns _ _ := .ok oneColumn

theorem last_respelled_survives : ∃ (t : Table) (code content : String), t.name = "orders" ∧
    t.render respelled = .ok code ∧
    (generate respelled alikeTables {}).world.tree.read? "out/x/../models.ts" = some content ∧
    code.toList <:+: content.toList := by
  obtain ⟨ts, written, -, -, hr, hw, hs⟩ := declaration_survives_iff rfl rfl
    (show (generate respelled alikeTables {}).result = .ok { written :=
      [("users", "out/models.ts"), ("orders", "out/x/../models.ts")] } by decide +kernel)
  obtain ⟨s₁, rest, rfl, -, hr⟩ := List.map_eq_cons_iff.mp hr.symm
  obtain ⟨s₂, rest, rfl, hs₂, hr⟩ := List.map_eq_cons_iff.mp hr
  obtain rfl := List.map_eq_nil_iff.mp hr
  simp only [Prod.mk.injEq] at hs₂
  obtain ⟨content, hread, hiff⟩ := hs [s₁] s₂ [] rfl
  exact ⟨s₂.1, s₂.2.code, content, hs₂.1, (hw s₂ (by simp)).1, hs₂.2 ▸ hread,
    hiff.mpr (Or.inl id)⟩

theorem respelled_file_loses_declaration :
    Config.ofJson respelledSettings = .ok respelled ∧
    respelled.reWrite = true ∧ respelled.dryRun = false ∧
    (respelled.fetchTables alikeTables).result =
      .ok (respelled.tables.map ({ · with columns := oneColumn })) ∧
    (generate respelled alikeTables {}).result = .ok { written :=
      [("users", "out/models.ts"), ("orders", "out/x/../models.ts")] } ∧
    ∃ code content : String,
      { respelledTable "users" "models" with columns := oneColumn }.render respelled = .ok code ∧
      (generate respelled alikeTables {}).world.tree.read? "out/models.ts" = some content ∧
      ¬ code.toList <:+: content.toList := by
  have hc : Config.ofJson respelledSettings = .ok respelled := by decide +kernel
  have hr : (generate respelled alikeTables {}).result = .ok { written :=
      [("users", "out/models.ts"), ("orders", "out/x/../models.ts")] } := by decide +kernel
  refine ⟨hc, rfl, rfl, rfl, hr, "export interface UsersModel \x7b\n    id: number;\n\x7d\n",
    "export interface OrdersModel \x7b\n    id: number;\n\x7d\n", ?_, ?_, ?_⟩
  · decide +kernel
  · decide +kernel
  · decide +kernel

end SchemaTypes
