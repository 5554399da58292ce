import AeroXProtect.Migrate.Upgrade
import AeroXProtect.Lib.Run

/-!
# Crashes of the migration runner

The mode of a run is derived from what tables and rows exist, so what an interrupted run leaves
behind is the input of the next decision. `UpgradeOk` says which databases the runner decides right
on: an empty one on which `create_all` may have begun, a current one without rows, and one with rows
whose remaining files still apply. A crash keeps it unless it falls into one of four windows, which
`SafeCrash` leaves out: after a table was created and before its last index was (no run creates the
indexes of a table that is there), after `roles` was created and before the last table was (the next
run trusts the tables), after the first baseline row was written and before the last one (the next
run executes the files that have none on a schema that has their effect), and inside a file, or
between a file and its row, if what was executed of the file does not bear being executed again.
-/

open Lib

namespace AeroXProtect

namespace Upgrade

section
variable {sql : Sql} (models : ModelTables) (files : List (Migration sql.Stmt))

/-! ## Safe crashes and databases to start from -/

/-- The statements can be executed again where they have been executed. -/
def Reruns (stmts : List sql.Stmt) (schema : sql.Schema) : Prop :=
  ∀ s, Script.run sql.exec stmts schema = (s, true) → Script.run sql.exec stmts s = (s, true)

/-- A crash after `n` statements of an incremental run over `fs` leaves no file half done, or only
what can be executed again. -/
def CutOk : List (Migration sql.Stmt) → Nat → sql.Schema → Prop
  | [], _, _ => True
  | f :: fs, n, schema =>
    if n < f.stmts.length + 2 then Reruns (f.stmts.take n) schema
    else CutOk fs (n - (f.stmts.length + 2)) (Script.run sql.exec f.stmts schema).1

/-- A crash after `n` statements that the next run recovers from. -/
def SafeCrash (db : SchemaDb sql) : Nat → Prop
  | 0 => True
  | n + 1 =>
    match mode db with
    | .fresh =>
      let total := ((missing models db).flatMap ModelTable.items).length
      (∃ k, n = (((missing models db).take k).flatMap ModelTable.items).length ∧
        "roles" ∉ ((missing models db).take k).map ModelTable.name) ∨ n = total ∨
        total < n ∧ ∀ f ∈ files.drop (n - total), f.stmts = []
    | .baseline => n = 0 ∨ ∀ f ∈ files.drop n, f.stmts = []
    | .incremental => CutOk (pending files db) n db.schema

/-- The statements of the files that are not recorded. -/
def pendingStmts (db : SchemaDb sql) : List sql.Stmt := (pending files db).flatMap Migration.stmts

/-- The databases `upgrade` is started on: an empty one; one from before the runner, whose schema is
current; one with rows, whose files have been run, and on which the other files apply. -/
inductive Start (db : SchemaDb sql) : Prop
  | empty (hmodels : ∀ t ∈ models, sql.hasTable db.schema t.name = false) (hrows : db.rows = ∅)
  | existing (hmodels : ∀ t ∈ models, sql.hasTable db.schema t.name = true) (hrows : db.rows = ∅)
      (hdone : ∀ f ∈ files, f.version ∈ db.done)
  | migrated (hroles : sql.hasTable db.schema "roles" = true) (hrows : db.rows.rows ≠ [])
      (hdone : ∀ r ∈ db.rows, r.version ∈ db.done) (schema : sql.Schema)
      (happly : Script.run sql.exec (pendingStmts files db) db.schema = (schema, true))
      (hmodels : ∀ t ∈ models, sql.hasTable schema t.name = true)

/-! ## The invariant -/

/-- What a database is on its way. -/
inductive Phase (db : SchemaDb sql) : Prop
  | fresh (hroles : sql.hasTable db.schema "roles" = false) (hrows : db.rows.rows = [])
      (hbuilt : ∀ t ∈ models, sql.hasTable db.schema t.name = true → ∀ i ∈ t.items, i ∈ db.built)
  | current (hroles : sql.hasTable db.schema "roles" = true) (hrows : db.rows.rows = [])
      (hmodels : ∀ t ∈ models, sql.hasTable db.schema t.name = true)
      (heffect : ∀ f ∈ files, HasEffect models db f.version)
  | recorded (hroles : sql.hasTable db.schema "roles" = true) (hrows : db.rows.rows ≠ [])
      (schema : sql.Schema)
      (happly : Script.run sql.exec (pendingStmts files db) db.schema = (schema, true))
      (hmodels : ∀ t ∈ models, sql.hasTable schema t.name = true)
      (hfinal : final models db = true → pendingStmts files db = [])

/-- No statement of a file was executed on a schema in its final form, the recorded versions have
their effect, and the next run decides right. -/
structure UpgradeOk (db : SchemaDb sql) : Prop where
  clean : ∀ e ∈ db.ran, e.2 = false
  effects : ∀ r ∈ db.rows, HasEffect models db r.version
  phase : Phase models files db

end

section
variable {sql : Sql} {models : ModelTables} {files : List (Migration sql.Stmt)} {db : SchemaDb sql}

/-! ## `create_all` -/

/-- What statements of `create_all` do to the database. -/
def createItems (is : List SchemaItem) (db : SchemaDb sql) : SchemaDb sql :=
  { db with
    schema := is.foldl (fun s i => sql.create i s) db.schema
    built := is.reverse ++ db.built }

theorem run_creates (is : List SchemaItem) (db : SchemaDb sql) :
    Script.run (exec models) (is.map .create) db = (createItems is db, true) := by
  induction is generalizing db with
  | nil => rfl
  | cons i is ih =>
    rw [List.map_cons, Script.run_cons (by rfl), ih]
    simp [createItems]

theorem hasTable_creates (is : List SchemaItem) (s : sql.Schema) (t : String) :
    sql.hasTable (is.foldl (fun s i => sql.create i s) s) t = true ↔
      .table t ∈ is ∨ sql.hasTable s t = true := by
  induction is generalizing s with
  | nil => simp
  | cons i is ih =>
    rw [List.foldl_cons, ih, sql.hasTable_create, List.mem_cons, Bool.or_eq_true, beq_iff_eq,
      eq_comm (a := i)]
    tauto

/-- The tables among the statements for some tables are these. -/
theorem table_mem_items {ts : List ModelTable} {name : String} :
    .table name ∈ ts.flatMap ModelTable.items ↔ name ∈ ts.map ModelTable.name := by
  simp [ModelTable.items, eq_comm]

theorem mem_built_createItems {is : List SchemaItem} {i : SchemaItem} :
    i ∈ (createItems is db).built ↔ i ∈ is ∨ i ∈ db.built := by
  simp [createItems]

/-- After `create_all` on a database on which only `create_all` has built tables, the schema is in
its final form. -/
theorem final_createItems
    (hbuilt : ∀ t ∈ models, sql.hasTable db.schema t.name = true → ∀ i ∈ t.items, i ∈ db.built) :
    final models (createItems ((missing models db).flatMap ModelTable.items) db) = true ∧
      ∀ t ∈ models, sql.hasTable
        (createItems ((missing models db).flatMap ModelTable.items) db).schema t.name = true := by
  have hmiss : ∀ t ∈ models, t ∈ missing models db ∨ sql.hasTable db.schema t.name = true := by
    intro t ht
    cases h : sql.hasTable db.schema t.name with
    | true => exact .inr rfl
    | false => exact .inl (List.mem_filter.2 ⟨ht, by rw [h]; rfl⟩)
  refine ⟨List.all_eq_true.2 fun t ht => List.all_eq_true.2 fun i hi => ?_, fun t ht => ?_⟩
  · rw [List.contains_iff_mem, mem_built_createItems]
    exact (hmiss t ht).imp (fun h => List.mem_flatMap.2 ⟨t, h, hi⟩) fun h => hbuilt t ht h i hi
  · exact (hasTable_creates _ _ _).2
      ((hmiss t ht).imp_left fun h => table_mem_items.2 (List.mem_map_of_mem h))

/-- A crash between two tables leaves only tables with their indexes. -/
theorem built_createItems
    (hbuilt : ∀ t ∈ models, sql.hasTable db.schema t.name = true → ∀ i ∈ t.items, i ∈ db.built)
    {ts : List ModelTable} (hts : ∀ t ∈ ts, t ∈ models) {t : ModelTable} (ht : t ∈ models)
    (hhas : sql.hasTable (createItems (ts.flatMap ModelTable.items) db).schema t.name = true)
    {i : SchemaItem} (hi : i ∈ t.items) :
    i ∈ (createItems (ts.flatMap ModelTable.items) db).built := by
  rw [mem_built_createItems]
  rcases (hasTable_creates _ _ _).1 hhas with hmem | hmem
  · obtain ⟨t', ht', hname⟩ := List.mem_map.1 (table_mem_items.1 hmem)
    obtain rfl := Table.eq_of_key_eq (hts t' ht') ht hname
    exact .inl (List.mem_flatMap.2 ⟨t', ht', hi⟩)
  · exact .inr (hbuilt t ht hmem i hi)

/-! ## Baseline rows -/

/-- The row a file is recorded with. -/
def rowOf (note : Option String) (f : Migration sql.Stmt) : MigrationRow :=
  ⟨f.version, f.filename, f.checksum, note⟩

theorem exec_record {f : Migration sql.Stmt} {note : Option String}
    (h : db.rows.get? f.version = none) :
    exec models (.record f note) db =
      ({ db with rows := db.rows.insert (rowOf note f) }, true) := by
  rw [exec, h]
  rfl

/-- Files with new, distinct versions are recorded in order. -/
theorem run_records (models : ModelTables) (db : SchemaDb sql) (note : Option String)
    (fs : List (Migration sql.Stmt)) (hnd : (fs.map Migration.version).Nodup)
    (hnew : ∀ f ∈ fs, db.rows.get? f.version = none) :
    ∃ rows : Table MigrationRow.version, rows.rows = db.rows.rows ++ fs.map (rowOf note) ∧
      Script.run (exec models) (fs.map fun f => .record f note) db =
        ({ db with rows }, true) := by
  induction fs generalizing db with
  | nil => exact ⟨db.rows, by simp, rfl⟩
  | cons f fs ih =>
    rw [List.map_cons, List.nodup_cons] at hnd
    have hf := hnew f (.head _)
    have hins : ∀ f' ∈ fs, (db.rows.insert (rowOf note f)).get? f'.version = none := by
      intro f' hf'
      rw [Table.get?_insert hf, if_neg fun h => ?_]
      · exact hnew f' (.tail _ hf')
      · have he : f'.version = f.version := h
        exact hnd.1 (he ▸ List.mem_map_of_mem hf')
    obtain ⟨rows, hrows, hrun⟩ := ih { db with rows := db.rows.insert (rowOf note f) } hnd.2 hins
    refine ⟨rows, ?_, ?_⟩
    · rw [hrows]
      show (db.rows.insert (rowOf note f)).rows ++ _ = _
      rw [Table.rows_insert (Table.get?_eq_none.1 hf), List.map_cons, List.append_assoc]
      rfl
    · rw [List.map_cons, Script.run_cons (exec_record hf), hrun]

/-- On a schema that is current, the first baseline row must be followed by all that belong to files
with statements. -/
theorem UpgradeOk.baselined (hnd : (files.map Migration.version).Nodup)
    (hclean : ∀ e ∈ db.ran, e.2 = false) (hroles : sql.hasTable db.schema "roles" = true)
    (hrows : db.rows.rows = []) (hmodels : ∀ t ∈ models, sql.hasTable db.schema t.name = true)
    (heffect : ∀ f ∈ files, HasEffect models db f.version) (note : Option String) {n : Nat}
    (hcut : n = 0 ∨ ∀ f ∈ files.drop n, f.stmts = []) :
    UpgradeOk models files
      (Script.run (exec models) ((files.map fun f => .record f note).take n) db).1 := by
  have hnone : ∀ v, db.rows.get? v = none := by
    intro v
    rw [Table.get?, hrows]
    rfl
  obtain ⟨rows, hrec, hrun⟩ := run_records models db note (files.take n)
    ((List.take_sublist n files).map _ |>.nodup hnd) fun f _ => hnone f.version
  rw [hrows, List.nil_append] at hrec
  rw [← List.map_take, hrun]
  have heff : ∀ r ∈ rows, HasEffect models { db with rows } r.version := by
    intro r hr
    rw [← Table.mem_rows, hrec] at hr
    obtain ⟨f, hf, rfl⟩ := List.mem_map.1 hr
    exact heffect f (List.mem_of_mem_take hf)
  refine ⟨hclean, heff, ?_⟩
  cases htake : files.take n with
  | nil =>
    rw [htake, List.map_nil] at hrec
    exact .current hroles hrec hmodels heffect
  | cons f fs =>
    have hne : rows.rows ≠ [] := by rw [hrec, htake]; exact List.cons_ne_nil _ _
    have hpos : n ≠ 0 := by rintro rfl; cases htake
    -- the files that have no row are behind the cut
    have hpend : pendingStmts files { db with rows } = [] := by
      refine List.flatMap_eq_nil_iff.2 fun g hg => ?_
      obtain ⟨hg, hnew⟩ := List.mem_filter.1 hg
      refine (hcut.resolve_left hpos) g ?_
      rw [← List.take_append_drop n files, List.mem_append] at hg
      refine hg.resolve_left fun hg => ?_
      have hmem : rowOf note g ∈ rows := by
        rw [← Table.mem_rows, hrec]
        exact List.mem_map_of_mem hg
      have hget : rows.get? g.version = some (rowOf note g) := Table.get?_eq_some.2 ⟨hmem, rfl⟩
      rw [hget] at hnew
      cases hnew
    exact .recorded hroles hne db.schema (by rw [hpend]; rfl) hmodels fun _ => hpend

/-- What a run that is not interrupted ends with. -/
structure Complete (models : ModelTables) (files : List (Migration sql.Stmt)) (db : SchemaDb sql) :
    Prop where
  ok : UpgradeOk models files db
  models : ∀ t ∈ models, sql.hasTable db.schema t.name = true
  pending : pending files db = []

/-- All files are recorded on a schema that is current. -/
theorem Complete.baselined (hnd : (files.map Migration.version).Nodup)
    (hclean : ∀ e ∈ db.ran, e.2 = false) (hroles : sql.hasTable db.schema "roles" = true)
    (hrows : db.rows.rows = []) (hmodels : ∀ t ∈ models, sql.hasTable db.schema t.name = true)
    (heffect : ∀ f ∈ files, HasEffect models db f.version) (note : Option String) :
    let r := Script.run (exec models) (files.map fun f => UpgradeOp.record f note) db
    Complete models files r.1 ∧ r.2 = true := by
  have hok := UpgradeOk.baselined hnd hclean hroles hrows hmodels heffect note
    (n := files.length) (.inr (by simp))
  rw [List.take_of_length_le (by simp)] at hok
  obtain ⟨rows, hrec, hrun⟩ := run_records models db note files hnd fun f _ => by
    rw [Table.get?, hrows]
    rfl
  rw [hrun] at hok ⊢
  refine ⟨⟨hok, hmodels, List.filter_eq_nil_iff.2 fun f hf => ?_⟩, rfl⟩
  have hmem : rowOf note f ∈ rows := by
    rw [← Table.mem_rows, hrec]
    exact List.mem_append_right _ (List.mem_map_of_mem hf)
  have hget : rows.get? f.version = some (rowOf note f) := Table.get?_eq_some.2 ⟨hmem, rfl⟩
  rw [hget]
  exact Bool.false_ne_true

/-! ## Running files -/

/-- No file drops the table `roles`. -/
def KeepsRoles (files : List (Migration sql.Stmt)) : Prop :=
  ∀ f ∈ files, ∀ stmt ∈ f.stmts, ∀ s, sql.hasTable s "roles" = true →
    sql.hasTable (sql.exec stmt s).1 "roles" = true

/-- The statements of a file, executed on a schema that `create_all` has not built. -/
theorem run_stmts (v : String) (stmts : List sql.Stmt) {s : sql.Schema}
    (hclean : ∀ e ∈ db.ran, e.2 = false) (hfinal : final models db = true → stmts = [])
    (h : Script.run sql.exec stmts db.schema = (s, true)) :
    ∃ ran : List (String × Bool), (∀ e ∈ ran, e.2 = false) ∧
      Script.run (exec models) (stmts.map (.run v)) db = ({ db with schema := s, ran }, true) := by
  induction stmts generalizing db with
  | nil =>
    cases h
    exact ⟨db.ran, hclean, rfl⟩
  | cons stmt stmts ih =>
    have hf : final models db = false := by
      cases hf : final models db with
      | false => rfl
      | true => cases hfinal hf
    rw [Script.run] at h
    split at h
    · next s₁ hs₁ =>
      have hexec : exec models (.run v stmt) db =
          ({ db with schema := s₁, ran := (v, false) :: db.ran }, true) := by
        rw [exec, hs₁, hf]
      obtain ⟨ran, hran, hrun⟩ := @ih { db with schema := s₁, ran := (v, false) :: db.ran }
        (fun e he => by
          rcases List.mem_cons.1 he with rfl | he
          · rfl
          · exact hclean e he)
        (fun h => by rw [show final models db = true from h] at hf; cases hf) h
      exact ⟨ran, hran, by rw [List.map_cons, Script.run_cons hexec, hrun]⟩
    · cases h

/-- What an incremental run over `fs` that ends somewhere has done: what is left of `fs` still leads
to the schema that `fs` leads to. -/
structure Progress (models : ModelTables) (fs : List (Migration sql.Stmt)) (schema : sql.Schema)
    (db db' : SchemaDb sql) : Prop where
  clean : ∀ e ∈ db'.ran, e.2 = false
  effects : ∀ r ∈ db'.rows, HasEffect models db' r.version
  built : db'.built = db.built
  roles : sql.hasTable db.schema "roles" = true → sql.hasTable db'.schema "roles" = true
  recorded : ∀ v, (db.rows.get? v).isSome = true → (db'.rows.get? v).isSome = true
  apply : Script.run sql.exec (pendingStmts fs db') db'.schema = (schema, true)

theorem roles_of_run (stmts : List sql.Stmt) {s : sql.Schema}
    (hkeep : ∀ stmt ∈ stmts, ∀ s, sql.hasTable s "roles" = true →
      sql.hasTable (sql.exec stmt s).1 "roles" = true)
    (h : sql.hasTable s "roles" = true) :
    sql.hasTable (Script.run sql.exec stmts s).1 "roles" = true :=
  Script.run_invariant (I := fun s => sql.hasTable s "roles" = true) hkeep h

/-- The database after a file was run through and recorded. -/
def afterFile (db : SchemaDb sql) (f : Migration sql.Stmt) (schema : sql.Schema)
    (ran : List (String × Bool)) : SchemaDb sql :=
  { db with schema, ran, done := f.version :: db.done, rows := db.rows.insert (rowOf none f) }

theorem get?_afterFile {f : Migration sql.Stmt} (hnew : db.rows.get? f.version = none)
    (schema : sql.Schema) (ran : List (String × Bool)) (v : String) :
    (afterFile db f schema ran).rows.get? v =
      if v = f.version then some (rowOf none f) else db.rows.get? v :=
  Table.get?_insert hnew

/-- A file that was run through and recorded has its effect, and the others keep theirs. -/
theorem effects_afterFile {f : Migration sql.Stmt} {schema : sql.Schema}
    {ran : List (String × Bool)} (hnew : db.rows.get? f.version = none)
    (heffect : ∀ r ∈ db.rows, HasEffect models db r.version) :
    ∀ r ∈ (afterFile db f schema ran).rows,
      HasEffect models (afterFile db f schema ran) r.version := by
  intro r hr
  rcases (Table.mem_insert (Table.get?_eq_none.1 hnew)).1 hr with hr | rfl
  · exact (heffect r hr).imp_left fun hv => .tail _ hv
  · exact .inl (.head _)

theorem run_file {f : Migration sql.Stmt} {s : sql.Schema} (hclean : ∀ e ∈ db.ran, e.2 = false)
    (hfinal : final models db = true → f.stmts = []) (hnew : db.rows.get? f.version = none)
    (h : Script.run sql.exec f.stmts db.schema = (s, true)) :
    ∃ ran : List (String × Bool), (∀ e ∈ ran, e.2 = false) ∧
      Script.run (exec models) (fileOps f) db = (afterFile db f s ran, true) := by
  obtain ⟨ran, hran, hrun⟩ := run_stmts f.version f.stmts hclean hfinal h
  refine ⟨ran, hran, ?_⟩
  rw [fileOps, Script.run_append hrun, Script.run_cons (by rfl),
    Script.run_cons (exec_record (by exact hnew))]
  rfl

/-- A file that is interrupted before it is recorded. -/
theorem run_file_cut {f : Migration sql.Stmt} {n : Nat} {s : sql.Schema}
    (hclean : ∀ e ∈ db.ran, e.2 = false) (hfinal : final models db = true → f.stmts = [])
    (hn : n < f.stmts.length + 2)
    (h : Script.run sql.exec (f.stmts.take n) db.schema = (s, true)) :
    ∃ (ran : List (String × Bool)) (done : List String), (∀ e ∈ ran, e.2 = false) ∧
      db.done ⊆ done ∧
      Script.run (exec models) ((fileOps f).take n) db =
        ({ db with schema := s, ran, done }, true) := by
  have hfinal' : final models db = true → f.stmts.take n = [] := by
    intro hf
    rw [hfinal hf, List.take_nil]
  obtain ⟨ran, hran, hrun⟩ := run_stmts f.version (f.stmts.take n) hclean hfinal' h
  rw [fileOps, List.take_append, List.length_map, ← List.map_take, Script.run_append hrun]
  obtain h0 | h1 : n - f.stmts.length = 0 ∨ n - f.stmts.length = 1 := by omega
  · rw [h0]
    exact ⟨ran, db.done, hran, fun _ hv => hv, rfl⟩
  · rw [h1]
    exact ⟨ran, f.version :: db.done, hran, fun _ hv => .tail _ hv, rfl⟩

/-- A file that is interrupted is run again from its beginning. -/
theorem Progress.cut {f : Migration sql.Stmt} {fs : List (Migration sql.Stmt)} {n : Nat}
    {s s₁ schema : sql.Schema} {ran : List (String × Bool)} {done : List String}
    (hkeep : KeepsRoles (f :: fs)) (hnew : ∀ g ∈ f :: fs, db.rows.get? g.version = none)
    (heffect : ∀ r ∈ db.rows, HasEffect models db r.version)
    (h₁ : Script.run sql.exec (f.stmts.take n) db.schema = (s₁, true))
    (hagain : Script.run sql.exec f.stmts s₁ = (s, true))
    (hrest : Script.run sql.exec (fs.flatMap Migration.stmts) s = (schema, true))
    (hran : ∀ e ∈ ran, e.2 = false) (hdone : db.done ⊆ done) :
    Progress models (f :: fs) schema db { db with schema := s₁, ran, done } where
  clean := hran
  effects := fun r hr => (heffect r hr).imp_left fun hv => hdone hv
  built := rfl
  roles := fun hr => by
    have hk := roles_of_run (f.stmts.take n)
      (fun stmt hs => hkeep f (.head _) stmt (List.mem_of_mem_take hs)) hr
    rwa [h₁] at hk
  recorded := fun _ h => h
  apply := by
    have hpend : pending (f :: fs) { db with schema := s₁, ran, done } = f :: fs :=
      List.filter_eq_self.2 fun g hg => by
        show (db.rows.get? g.version).isNone = true
        rw [hnew g hg]
        rfl
    rw [pendingStmts, hpend, List.flatMap_cons, Script.run_append hagain, hrest]

/-- A file that is recorded is not run again. -/
theorem Progress.file {f : Migration sql.Stmt} {fs : List (Migration sql.Stmt)}
    {s schema : sql.Schema} {ran : List (String × Bool)} {db' : SchemaDb sql}
    (hkeep : KeepsRoles (f :: fs)) (hnew : db.rows.get? f.version = none)
    (hf : Script.run sql.exec f.stmts db.schema = (s, true))
    (hp : Progress models fs schema (afterFile db f s ran) db') :
    Progress models (f :: fs) schema db db' ∧ pending (f :: fs) db' = pending fs db' := by
  have hf₁ := get?_afterFile hnew s ran
  have hsome := hp.recorded f.version (by rw [hf₁, if_pos rfl]; rfl)
  have hpend : pending (f :: fs) db' = pending fs db' := by
    rw [pending, List.filter_cons, if_neg (by simpa using Option.isSome_iff_ne_none.1 hsome)]
    rfl
  refine ⟨⟨hp.clean, hp.effects, hp.built, fun hr => hp.roles ?_, fun v hv => ?_, ?_⟩, hpend⟩
  · have hk := roles_of_run f.stmts (hkeep f (.head _)) hr
    rwa [hf] at hk
  · refine hp.recorded v ?_
    rw [hf₁]
    split
    · rfl
    · exact hv
  · rw [pendingStmts, hpend]
    exact hp.apply

/-- An incremental run that crashes at a safe point, or ends. -/
theorem run_files (fs : List (Migration sql.Stmt)) {n : Nat} {schema : sql.Schema}
    (hnd : (fs.map Migration.version).Nodup) (hkeep : KeepsRoles fs)
    (hnew : ∀ f ∈ fs, db.rows.get? f.version = none)
    (hclean : ∀ e ∈ db.ran, e.2 = false)
    (heffect : ∀ r ∈ db.rows, HasEffect models db r.version)
    (hfinal : final models db = true → fs.flatMap Migration.stmts = [])
    (happly : Script.run sql.exec (fs.flatMap Migration.stmts) db.schema = (schema, true))
    (hcut : CutOk fs n db.schema) :
    let r := Script.run (exec models) ((fs.flatMap fileOps).take n) db
    Progress models fs schema db r.1 ∧
      ((fs.flatMap fileOps).length ≤ n → r.2 = true ∧ pending fs r.1 = []) := by
  induction fs generalizing n db with
  | nil =>
    rw [List.flatMap_nil, List.take_nil]
    exact ⟨⟨hclean, heffect, rfl, id, fun _ h => h, happly⟩, fun _ => ⟨rfl, rfl⟩⟩
  | cons f fs ih =>
    rw [List.map_cons, List.nodup_cons] at hnd
    rw [List.flatMap_cons] at hfinal happly
    obtain ⟨s, hf, hrest⟩ := Script.run_of_append happly
    have hfin : final models db = true → f.stmts = [] :=
      fun h => (List.append_eq_nil_iff.1 (hfinal h)).1
    have hlen : (fileOps f).length = f.stmts.length + 2 := by simp [fileOps]
    rw [List.flatMap_cons, CutOk] at *
    split at hcut
    · next hn =>
      -- the file is cut: it will be run again, from its beginning
      rw [List.take_append_of_le_length (by omega)]
      have hsplit := hf
      rw [← List.take_append_drop n f.stmts] at hsplit
      obtain ⟨s₁, h₁, h₂⟩ := Script.run_of_append hsplit
      obtain ⟨ran, done, hran, hdone, hrun⟩ := run_file_cut hclean hfin hn h₁
      rw [hrun]
      have hagain : Script.run sql.exec f.stmts s₁ = (s, true) := by
        rw [← List.take_append_drop n f.stmts, Script.run_append (hcut s₁ h₁), h₂]
      refine ⟨.cut hkeep hnew heffect h₁ hagain hrest hran hdone, fun hle => ?_⟩
      rw [List.length_append] at hle
      omega
    · next hn =>
      obtain ⟨ran, hran, hrun⟩ := run_file hclean hfin (hnew f (.head _)) hf
      rw [List.take_append, List.take_of_length_le (by omega), Script.run_append hrun, hlen]
      rw [hf] at hcut
      have hf₁ := get?_afterFile (hnew f (.head _)) s ran
      have hnew₁ : ∀ g ∈ fs, (afterFile db f s ran).rows.get? g.version = none := by
        intro g hg
        have hne : g.version ≠ f.version := fun h => hnd.1 (h ▸ List.mem_map_of_mem hg)
        rw [hf₁, if_neg hne, hnew g (.tail _ hg)]
      obtain ⟨hp, hall⟩ := @ih (afterFile db f s ran) _ hnd.2
        (fun g hg => hkeep g (.tail _ hg)) hnew₁ hran
        (effects_afterFile (hnew f (.head _)) heffect)
        (fun h => (List.append_eq_nil_iff.1 (hfinal h)).2) hrest hcut
      obtain ⟨hprogress, hpend⟩ := Progress.file hkeep (hnew f (.head _)) hf hp
      refine ⟨hprogress, fun hle => ?_⟩
      rw [hpend]
      exact hall (by rw [List.length_append] at hle; omega)

/-! ## Runs of the runner -/

/-- The files that are still not recorded after rows were added. -/
theorem pending_pending (files : List (Migration sql.Stmt)) {db' : SchemaDb sql}
    (h : ∀ v, (db.rows.get? v).isSome = true → (db'.rows.get? v).isSome = true) :
    pending (pending files db) db' = pending files db' := by
  unfold pending
  rw [List.filter_filter]
  refine List.filter_congr fun f _ => ?_
  cases hd : db.rows.get? f.version with
  | none => simp
  | some r =>
    have hsome := h f.version (by rw [hd]; rfl)
    simp [Option.isNone_eq_false_iff.2 hsome]

theorem mode_fresh (h : sql.hasTable db.schema "roles" = false) : mode db = .fresh := by
  rw [mode, h]
  rfl

theorem mode_baseline (h : sql.hasTable db.schema "roles" = true) (hrows : db.rows.rows = []) :
    mode db = .baseline := by
  rw [mode, h, hrows]
  rfl

theorem mode_incremental (h : sql.hasTable db.schema "roles" = true) (hrows : db.rows.rows ≠ []) :
    mode db = .incremental := by
  rw [mode, h]
  simp [hrows]

theorem UpgradeOk.ensureTable (h : UpgradeOk models files db) :
    UpgradeOk models files db.ensureTable where
  clean := h.clean
  effects := h.effects
  phase := by
    cases h.phase with
    | fresh h₁ h₂ h₃ => exact .fresh h₁ h₂ h₃
    | current h₁ h₂ h₃ h₄ => exact .current h₁ h₂ h₃ h₄
    | recorded h₁ h₂ s h₃ h₄ h₅ => exact .recorded h₁ h₂ s h₃ h₄ h₅

/-- A table of the models that every model list has. -/
theorem hasTable_of_models {schema : sql.Schema} {name : String}
    (hmodels : ∀ t ∈ models, sql.hasTable schema t.name = true)
    (hname : name ∈ models.rows.map ModelTable.name) : sql.hasTable schema name = true := by
  obtain ⟨t, ht, rfl⟩ := List.mem_map.1 hname
  exact hmodels t ht

/-- A crash of a fresh run: `create_all` is between two tables and has not come to `roles`, or it
has come to its end. -/
theorem UpgradeOk.freshRun (hnd : (files.map Migration.version).Nodup)
    (hroles : "roles" ∈ models.rows.map ModelTable.name)
    (h : UpgradeOk models files db) (hno : sql.hasTable db.schema "roles" = false)
    (hrows : db.rows.rows = [])
    (hbuilt : ∀ t ∈ models, sql.hasTable db.schema t.name = true → ∀ i ∈ t.items, i ∈ db.built)
    (note : Option String) {n : Nat}
    (hcut : (∃ k, n = (((missing models db).take k).flatMap ModelTable.items).length ∧
        "roles" ∉ ((missing models db).take k).map ModelTable.name) ∨
      n = ((missing models db).flatMap ModelTable.items).length ∨
      ((missing models db).flatMap ModelTable.items).length < n ∧
        ∀ f ∈ files.drop (n - ((missing models db).flatMap ModelTable.items).length),
          f.stmts = []) :
    UpgradeOk models files (Script.run (exec models)
      ((((missing models db).flatMap ModelTable.items).map UpgradeOp.create ++
        files.map fun f => UpgradeOp.record f note).take n) db).1 := by
  rcases hcut with ⟨k, hn, hcut⟩ | hcut
  · -- the tables before the crash have their indexes, and `roles` is not among them
    have hsplit : (missing models db).flatMap ModelTable.items =
        ((missing models db).take k).flatMap ModelTable.items ++
          ((missing models db).drop k).flatMap ModelTable.items := by
      rw [← List.flatMap_append, List.take_append_drop]
    rw [hsplit, List.map_append, List.append_assoc,
      List.take_left' (by rw [List.length_map, hn]), run_creates]
    refine ⟨h.clean, fun r hr => ?_, .fresh ?_ hrows fun t ht hhas i hi => ?_⟩
    · rw [← Table.mem_rows] at hr
      exact absurd (hrows ▸ hr) List.not_mem_nil
    · rw [← Bool.not_eq_true]
      intro hhas
      rcases (hasTable_creates _ _ _).1 hhas with hmem | hmem
      · exact hcut (table_mem_items.1 hmem)
      · rw [hno] at hmem
        cases hmem
    · exact built_createItems hbuilt
        (fun t ht => (List.mem_filter.1 (List.mem_of_mem_take ht)).1) ht hhas hi
  · have hle : ((missing models db).flatMap ModelTable.items).length ≤ n :=
      hcut.elim (fun h => h.ge) fun h => h.1.le
    obtain ⟨hfinal, hmodels⟩ := final_createItems hbuilt
    rw [List.take_append, List.take_of_length_le (by simpa using hle),
      Script.run_append (run_creates _ _), List.length_map]
    refine @UpgradeOk.baselined _ _ _
      (createItems ((missing models db).flatMap ModelTable.items) db) hnd h.clean
      (hasTable_of_models hmodels hroles) hrows hmodels (fun _ _ => .inr hfinal) _ _ ?_
    exact hcut.imp (fun h => by omega) fun h => h.2

/-- A crash of an incremental run. -/
theorem UpgradeOk.incrementalRun (hnd : (files.map Migration.version).Nodup)
    (hkeep : KeepsRoles files) (h : UpgradeOk models files db)
    (hyes : sql.hasTable db.schema "roles" = true) (hrows : db.rows.rows ≠ [])
    {schema : sql.Schema}
    (happly : Script.run sql.exec (pendingStmts files db) db.schema = (schema, true))
    (hmodels : ∀ t ∈ models, sql.hasTable schema t.name = true)
    (hfinal : final models db = true → pendingStmts files db = []) {n : Nat}
    (hcut : CutOk (pending files db) n db.schema) :
    let r := Script.run (exec models) (((pending files db).flatMap fileOps).take n) db
    UpgradeOk models files r.1 ∧
      (((pending files db).flatMap fileOps).length ≤ n → r.2 = true ∧
        pending files r.1 = [] ∧ ∀ t ∈ models, sql.hasTable r.1.schema t.name = true) := by
  have hnew : ∀ f ∈ pending files db, db.rows.get? f.version = none :=
    fun f hf => Option.isNone_iff_eq_none.1 (List.mem_filter.1 hf).2
  obtain ⟨hp, hend⟩ := run_files (pending files db)
    ((List.filter_sublist.map _).nodup hnd)
    (fun f hf => hkeep f (List.mem_filter.1 hf).1) hnew h.clean h.effects hfinal happly hcut
  have hpend := pending_pending files hp.recorded
  have happly' := hp.apply
  rw [pendingStmts, hpend] at happly'
  refine ⟨⟨hp.clean, hp.effects, .recorded (hp.roles hyes) ?_ schema happly' hmodels ?_⟩, ?_⟩
  · intro hnil
    obtain ⟨r, hr⟩ := List.exists_mem_of_ne_nil _ hrows
    have hsome := hp.recorded r.version
      (by rw [Table.get?_eq_some.2 ⟨hr, rfl⟩]; rfl)
    rw [Table.get?, hnil] at hsome
    cases hsome
  · intro hf
    have hf' : final models db = true := by
      unfold final at hf ⊢
      rwa [hp.built] at hf
    have hnil := hfinal hf'
    refine List.flatMap_eq_nil_iff.2 fun f hmem => ?_
    rw [← hpend] at hmem
    exact List.flatMap_eq_nil_iff.1 hnil f (List.mem_filter.1 hmem).1
  · intro hle
    obtain ⟨hthrough, hnone⟩ := hend hle
    rw [hpend] at hnone
    refine ⟨hthrough, hnone, ?_⟩
    rw [hnone] at happly'
    have hs : _ = schema := congrArg Prod.fst happly'
    rw [← hs] at hmodels
    exact hmodels

/-- The databases to start from. -/
theorem Start.ok (hroles : "roles" ∈ models.rows.map ModelTable.name)
    (hstart : Start models files db) (hbuilt : db.built = []) (hran : db.ran = []) :
    UpgradeOk models files db := by
  have hclean : ∀ e ∈ db.ran, e.2 = false := by
    intro e he
    rw [hran] at he
    cases he
  cases hstart with
  | empty hmodels hrows =>
    refine ⟨hclean, fun r hr => ?_, .fresh ?_ (by rw [hrows]; rfl) ?_⟩
    · rw [hrows] at hr
      exact absurd hr (Table.not_mem_empty r)
    · obtain ⟨t, ht, hname⟩ := List.mem_map.1 hroles
      exact hname ▸ hmodels t ht
    · intro t ht hhas
      rw [hmodels t ht] at hhas
      cases hhas
  | existing hmodels hrows hdone =>
    refine ⟨hclean, fun r hr => ?_,
      .current (hasTable_of_models hmodels hroles) (by rw [hrows]; rfl) hmodels
      fun f hf => .inl (hdone f hf)⟩
    rw [hrows] at hr
    exact absurd hr (Table.not_mem_empty r)
  | migrated hyes hrows hdone schema happly hmodels =>
    refine ⟨hclean, fun r hr => .inl (hdone r hr), .recorded hyes hrows schema happly hmodels ?_⟩
    intro hfinal
    obtain ⟨t, ht, -⟩ := List.mem_map.1 hroles
    have hmem := List.all_eq_true.1 (List.all_eq_true.1 hfinal t ht) (.table t.name) (.head _)
    rw [hbuilt] at hmem
    cases hmem

section
variable (hnd : (files.map Migration.version).Nodup)
  (hroles : "roles" ∈ models.rows.map ModelTable.name) (hkeep : KeepsRoles files)
include hnd hroles hkeep

/-- A run that crashes at a safe point leaves a database on which the next run decides right. -/
theorem UpgradeOk.attempt (h : UpgradeOk models files db) {n : Nat}
    (hsafe : SafeCrash models files db n) :
    UpgradeOk models files (attempt models files db n) := by
  cases n with
  | zero => exact h
  | succ n =>
    have h' := h.ensureTable
    have hsafe' : SafeCrash models files db.ensureTable (n + 1) := hsafe
    unfold Upgrade.attempt
    generalize db.ensureTable = d at h' hsafe'
    unfold SafeCrash at hsafe'
    unfold plan
    cases h'.phase with
    | fresh hno hrows hbuilt =>
      rw [mode_fresh hno] at hsafe' ⊢
      exact h'.freshRun hnd hroles hno hrows hbuilt _ hsafe'
    | current hyes hrows hmodels heffect =>
      rw [mode_baseline hyes hrows] at hsafe' ⊢
      exact .baselined hnd h'.clean hyes hrows hmodels heffect _ hsafe'
    | recorded hyes hrows schema happly hmodels hfinal =>
      rw [mode_incremental hyes hrows] at hsafe' ⊢
      exact (h'.incrementalRun hnd hkeep hyes hrows happly hmodels hfinal hsafe').1

end

end

namespace Fixture

/-- Tables with their indexes, and the columns that files have added. -/
structure Schema where
  items : List SchemaItem
  columns : List String

/-- A server on which a statement of a file adds a column, and fails where the column is there. -/
def sql : Sql where
  Schema := Schema
  Stmt := String
  exec := fun column s =>
    if s.columns.contains column then (s, false)
    else ({ s with columns := column :: s.columns }, true)
  hasTable := fun s t => s.items.contains (.table t)
  create := fun i s => { s with items := i :: s.items }
  hasTable_create := fun i s t => by
    rw [List.contains_cons, Bool.beq_comm]

/-- The table `users` has an index. -/
def models : ModelTables :=
  ⟨[⟨"users", ["ix_users_email"]⟩, ⟨"roles", []⟩, ⟨"cameras", []⟩], by decide⟩

def dir : List (DirEntry String) :=
  [⟨"0001_next.sql", "c1", ["roles.x"]⟩, ⟨"0000_init.sql", "c0", ["roles.name"]⟩]

def empty : SchemaDb sql := ⟨⟨[], []⟩, false, ∅, [], [], []⟩

/-- A database of the version before, on which `0001` is to be run. -/
def migrated : SchemaDb sql :=
  ⟨⟨[.table "users", .table "roles", .table "cameras"], ["roles.name"]⟩, true,
    ⟨[⟨"0000", "0000_init.sql", "c0", some "baseline:existing"⟩], List.nodup_singleton _⟩,
    [], ["0000"], []⟩

end Fixture

end Upgrade

end AeroXProtect
