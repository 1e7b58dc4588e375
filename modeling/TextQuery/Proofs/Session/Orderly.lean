import TextQuery.Proofs.Engine.Ordering
import TextQuery.Proofs.Session.Regular

set_option autoImplicit false

namespace TextQuery

open Engine Engine.Change Text

namespace Engine

structure Database.Orderly (database : Database) : Prop extends database.Regular where
  orderly : ∀ schema ∈ database.schemas, schema.Orderly

namespace Database.Orderly

variable {database : Database}

theorem within (orderly : database.Orderly) {name : String} {edit : List Table → List Table}
    (regular : (database.within name edit).Regular)
    (edited : ∀ schema ∈ database.schemas, sameName schema.name name = true → ∀ table ∈ edit schema.tables,
      (Schema.catalogNames schema.name).any (sameName table.name) = false ∧ table.Stored) :
    (database.within name edit).Orderly := by
  refine ⟨regular, ?_⟩
  have distinct := regular.distinct
  rw [schemas_within orderly.apart, List.forall_mem_map] at distinct ⊢
  intro schema member
  have after := distinct schema member
  split
  · rename_i same
    rw [if_pos same] at after
    exact (orderly.orderly schema member).change (orderly.distinct schema member) after
      (fun table inside => (edited schema member same table inside).1)
      (fun table inside => (edited schema member same table inside).2)
  · exact orderly.orderly schema member

theorem added (orderly : database.Orderly) {home : Schema} {table : String} {tables : List Table}
    (regular : (database.within home.name (· ++ tables)).Regular) (adds : Adds home table tables)
    (found : database.schema? home.name = some home) :
    (database.within home.name (· ++ tables)).Orderly := by
  refine orderly.within regular ?_
  intro schema member same made inside
  cases orderly.home_eq found member same
  rcases List.mem_append.1 inside with old | new
  · exact ⟨(orderly.orderly home member).unlisted made old, (orderly.orderly home member).stored made old⟩
  · refine ⟨?_, adds.stored made new⟩
    have vacant := adds.vacant made new
    unfold Schema.find? at vacant
    split at vacant
    · cases vacant
    · split at vacant
      · cases vacant
      · rename_i other
        exact Bool.eq_false_iff.2 other

-- A table that is written to is the one whose rows were looked at.
theorem stored_withRows (orderly : database.Orderly) {home name : String} {declaration : TableDeclaration}
    {before rows : List StoredRow} (stores : database.Stores home name declaration before)
    (rewritten : declaration.Rewritten before rows) {schema : Schema} (member : schema ∈ database.schemas)
    (same : sameName schema.name home = true) {table : Table} (there : table ∈ schema.tables) :
    (table.withRows name rows).Stored := by
  have stored := (orderly.orderly schema member).stored table there
  by_cases named : sameName table.name name = true
  · obtain ⟨other, held, found, looked, body⟩ := stores
    cases orderly.home_eq found member same
    have listed : held ∈ schema.tables ∧ sameName held.name name = true := by
      rcases Schema.find?_cases looked with ⟨-, listed, same⟩ | ⟨rfl, -⟩
      · exact ⟨listed, same⟩
      · cases body
    have known : table = held :=
      eq_of_sameName (orderly.distinct schema member) there listed.1
        (sameName_trans named (sameName_symm listed.2))
    subst known
    unfold Table.withRows
    simp only [body, named, if_true]
    constructor <;> rintro declaration written ⟨⟩
    · exact rewritten.stored (stored.rows _ before body)
    · exact stored.parents _ before body
  · rwa [Table.withRows_other (Bool.eq_false_iff.2 named)]

-- A catalog that is read anew goes through the same tables.
theorem forgotten {tables : Database} (regular : tables.forget.Regular)
    (orderly : ∀ schema ∈ tables.schemas, schema.Orderly) : tables.forget.Orderly := by
  refine ⟨regular, ?_⟩
  have schemas : tables.forget.schemas =
      tables.schemas.map fun schema => Schema.ofTables schema.name schema.tables := rfl
  rw [schemas, List.forall_mem_map]
  exact fun schema member =>
    Schema.orderly_ofTables (orderly schema member).unlisted (orderly schema member).stored

theorem lasting : Lasting (fun _ _ => True) OfMatch Orderly where
  noted used _ segments fewer orderly :=
    ⟨Regular.lasting.noted used segments fewer orderly.toRegular, orderly.orderly⟩
  read orderly := ⟨Regular.lasting.read orderly.toRegular, orderly.orderly⟩
  checked fewer orderly := ⟨Regular.lasting.checked fewer orderly.toRegular, orderly.orderly⟩
  several := Regular.lasting.several
  started may orderly := ⟨Regular.lasting.started may orderly.toRegular, orderly.orderly⟩
  reread orderly := forgotten (Regular.lasting.reread orderly.toRegular) orderly.orderly
  undone fewer before after :=
    ⟨Regular.lasting.undone fewer before.toRegular after.toRegular, before.orderly⟩
  written _ stores rewritten orderly := by
    refine orderly.within (Regular.lasting.written trivial stores rewritten orderly.toRegular) ?_
    intro schema member same
    rw [List.forall_mem_map]
    intro table there
    rw [Table.withRows_name]
    exact ⟨(orderly.orderly schema member).unlisted table there,
      orderly.stored_withRows stores rewritten member same there⟩

theorem mayBuild (building : Building) (clean : ∀ text ∈ building.texts, '\x00' ∉ text.toList) :
    MayBuild Orderly (fun _ _ => True) building := by
  have may := Regular.mayBuild building clean
  cases building with
  | attach schema =>
    intro database orderly new
    refine ⟨may database orderly.toRegular new, ?_⟩
    intro held member
    rcases mem_attached member with old | rfl
    · exact orderly.orderly held old
    · exact Schema.orderly_ofTables (by simp) (by simp)
  | detach schema =>
    exact fun database orderly gone =>
      ⟨may database orderly.toRegular gone, fun held member => orderly.orderly held (mem_detached member)⟩
  | createTable | createView | createFullText =>
    intro home tables same adds database orderly found
    exact orderly.added (may home tables same adds database orderly.toRegular found) adds found
  | insert | delete => exact fun _ _ _ _ => ⟨trivial, fun _ _ => trivial⟩
  | drop schema table =>
    intro home held database orderly located gone
    refine orderly.within (may home held database orderly.toRegular located gone) ?_
    intro schema member _ table kept
    have there := (List.mem_filter.1 kept).1
    exact ⟨(orderly.orderly schema member).unlisted table there, (orderly.orderly schema member).stored table there⟩
  | lock | unlock =>
    exact fun database orderly => ⟨may database orderly.toRegular, orderly.orderly⟩

theorem outlasting : Session.Outlasting (fun _ => True) Orderly where
  opened condition := by
    refine ⟨Regular.outlasting.opened condition, ?_⟩
    have empty (name : String) : (Schema.ofTables name []).Orderly :=
      Schema.orderly_ofTables (by simp) (by simp)
    simp [schemas, empty]
  reopened {database} orderly := by
    refine forgotten (Regular.outlasting.reopened orderly.toRegular) ?_
    have main := orderly.orderly database.main (by simp [schemas])
    have temp : (Schema.ofTables "temp" []).Orderly := Schema.orderly_ofTables (by simp) (by simp)
    simp [schemas, main, temp]
  watched := by
    apply watched_of lasting.toSteadfast lasting.reread
    · intro choice database splitter orderly free _
      exact orderly.added (orderly.added_tokens free splitter) (adds_tokens free splitter) orderly.schema?_temp
    · intro columns database tables orderly free made
      exact orderly.added (orderly.added_probe free made) (adds_probe free made) orderly.schema?_temp
    · exact fun target expression _ other _ _ _ _ _ => .inl fun text same =>
        ⟨target, other, (List.singleton_inj.1 same).symm⟩
  built _ := keeps_build lasting (mayBuild _)
  listed := keeps_listHelpers lasting

end Database.Orderly

end Engine

end TextQuery
