import Mathlib.Data.List.Sort
import Remedy.Archive.Sandbox
import Remedy.Proofs.Archive.Agreement

/-!
# Archived runs and toolchains are read back

Each encoding agrees with its decoding where the numbers fit the machine (`InRange`). A record is read
field by field in the order of its decoding; which field has a name is a computation, and so `rfl`.
A table of toolchains has no numbers: every table agrees (`ToolchainTable.agrees`), though its
entries are archived by the names of their languages, and so in another order.
-/

namespace Remedy

open Archive

theorem Language.agrees : Agrees Language.toJson Language.ofJson? (fun _ => True) 0 where
  plain _ := plain_str ..
  reads _ := Language.ofName?_name _
  ranged _ := trivial

theorem RunStatus.agrees : Agrees RunStatus.toJson RunStatus.ofJson? (fun _ => True) 0 where
  plain _ := plain_str ..
  reads {s} _ := by cases s <;> decide
  ranged _ := trivial

namespace Timings

structure InRange (t : Timings) : Prop where
  compileMs : ∀ n ∈ t.compileMs, IsNat64 n
  runMs : ∀ n ∈ t.runMs, IsNat64 n

theorem agrees : Agrees toJson ofJson? InRange 1 where
  plain ht := by
    have hcompile := (agrees_nat64.option rfl).plain ht.compileMs
    have hrun := (agrees_nat64.option rfl).plain ht.runMs
    exact Json.Plain.ofFields (by simp [hcompile, hrun])
  reads ht := by
    simp only [ofJson?, Option.bind_eq_bind, Option.bind_eq_some_iff, Option.pure_def,
      Option.some.injEq]
    exact ⟨_, record?_ofFields .., _, agrees_nat64.getOption? rfl ht.compileMs rfl, _,
      agrees_nat64.getOption? rfl ht.runMs rfl, rfl⟩
  ranged h := by
    simp only [ofJson?, Option.bind_eq_bind, Option.bind_eq_some_iff, Option.pure_def,
      Option.some.injEq] at h
    obtain ⟨fields, -, compileMs, hcompile, runMs, hrun, rfl⟩ := h
    exact ⟨agrees_nat64.of_getOption? hcompile, agrees_nat64.of_getOption? hrun⟩

end Timings

namespace RunResult

structure InRange (r : RunResult) : Prop where
  exitCode : IsInt32 r.exitCode
  timings : r.timings.InRange

theorem agrees : Agrees toJson ofJson? InRange 2 where
  plain {r} hr := by
    have hcode := (agrees_int32.plain hr.exitCode).mono (Nat.zero_le 1)
    have hcommand := agrees_text.list.plain (a := r.command) fun _ _ => trivial
    have htimings := Timings.agrees.plain hr.timings
    exact Json.Plain.ofFields
      (by simp [Language.toJson, RunStatus.toJson, hcode, hcommand, htimings])
  reads hr := by
    simp only [ofJson?, Option.bind_eq_bind, Option.bind_eq_some_iff, Option.pure_def,
      Option.some.injEq]
    exact ⟨_, record?_ofFields .., _, Language.agrees.get? trivial rfl, _,
      RunStatus.agrees.get? trivial rfl, _, agrees_int32.get? hr.exitCode rfl, _,
      agrees_text.get? trivial rfl, _, agrees_text.get? trivial rfl, _,
      agrees_text.list.get? (fun _ _ => trivial) rfl, _, Timings.agrees.get? hr.timings rfl, rfl⟩
  ranged h := by
    simp only [ofJson?, Option.bind_eq_bind, Option.bind_eq_some_iff, Option.pure_def,
      Option.some.injEq] at h
    obtain ⟨fields, -, _, -, _, -, code, hcode, _, -, _, -, _, -, timings, htimings, rfl⟩ := h
    exact ⟨agrees_int32.of_get? hcode, Timings.agrees.of_get? htimings⟩

end RunResult

namespace SourceNaming

theorem agrees : Agrees toJson ofJson? (fun _ => True) 1 where
  plain {n} _ := by cases n <;> exact Json.Plain.ofFields (by simp)
  reads {n} _ := by
    cases n
    all_goals
      rw [toJson, ofJson?, tagged?_ofFields rfl, Option.bind_eq_bind, Option.bind_some]
      simp only [Option.bind_eq_bind, Option.bind_eq_some_iff, Option.pure_def, Option.some.injEq]
      exact ⟨_, record?_ofFields .., _, agrees_text.get? trivial rfl, rfl⟩
  ranged _ := trivial

end SourceNaming

namespace Toolchain

theorem agrees : Agrees toJson ofJson? (fun _ => True) 2 where
  plain {t} _ := by
    have hnaming := SourceNaming.agrees.plain (a := t.naming) trivial
    have hcompile := (agrees_text.list.option rfl).plain (a := t.compileStep) (by simp)
    have hrun := agrees_text.list.plain (a := t.runCommand) (by simp)
    exact Json.Plain.ofFields (by simp [Language.toJson, hnaming, hcompile, hrun])
  reads _ := by
    simp only [ofJson?, Option.bind_eq_bind, Option.bind_eq_some_iff, Option.pure_def,
      Option.some.injEq]
    exact ⟨_, record?_ofFields .., _, Language.agrees.get? trivial rfl, _,
      agrees_text.get? trivial rfl, _, SourceNaming.agrees.get? trivial rfl, _,
      agrees_text.list.getOption? rfl (by simp) rfl, _, agrees_text.list.get? (by simp) rfl, _,
      agrees_bool.get? trivial rfl, rfl⟩
  ranged _ := trivial

end Toolchain

theorem Language.name_inj {l l' : Language} : l.name = l'.name ↔ l = l' := by
  refine ⟨fun h => ?_, congrArg name⟩
  have hl := ofName?_name l
  rw [h, ofName?_name] at hl
  exact (Option.some.inj hl).symm

namespace ToolchainTable

/-! ## Tables -/

theorem nodup_languages (table : ToolchainTable) : (table.entries.map Prod.fst).Nodup :=
  List.pairwise_map.mpr <| table.sorted.imp fun hlt heq => Nat.ne_of_lt hlt (congrArg _ heq)

theorem get?_eq_some_iff {table : ToolchainTable} {l : Language} {t : Toolchain} :
    table.get? l = some t ↔ (l, t) ∈ table.entries :=
  Json.lookup_eq_some_iff_mem table.nodup_languages

/-- A table is what it gives for each language. -/
theorem eq_of_get?_eq {table table' : ToolchainTable} (h : ∀ l, table.get? l = table'.get? l) :
    table = table' := by
  have hmem : ∀ e, e ∈ table.entries ↔ e ∈ table'.entries := fun e => by
    rw [← get?_eq_some_iff, ← get?_eq_some_iff, h]
  have : Std.Irrefl fun a b : Language × Toolchain => a.1.rank < b.1.rank :=
    ⟨fun a => Nat.lt_irrefl _⟩
  have heq := table.sorted.eq_of_mem_iff table'.sorted hmem
  cases table
  cases table'
  cases heq
  rfl

theorem inserts_insertEntry (language : Language) (t : Toolchain)
    (entries : List (Language × Toolchain)) :
    Json.Inserts language t entries (insertEntry language t entries) := by
  induction entries with
  | nil => exact .first
  | cons e entries ih =>
      rw [insertEntry]
      split
      · next heq =>
          subst heq
          exact .replace e.2 entries
      split
      · exact .before _
      · next hne _ => exact .behind (Ne.symm hne) ih

theorem get?_insert (table : ToolchainTable) (language l : Language) (t : Toolchain) :
    (table.insert language t).get? l = if l = language then some t else table.get? l :=
  (inserts_insertEntry language t table.entries).lookup l

/-- Archived toolchains of languages are a table that gives each of them. -/
theorem ofFields?_get? {fields : List (String × Json)}
    (h : ∀ kv ∈ fields, ∃ l : Language, ∃ t : Toolchain, kv = (l.name, t.toJson)) :
    ∃ table, ofFields? fields = some table ∧
      ∀ l, table.get? l = (fields.lookup l.name).bind Toolchain.ofJson? := by
  induction fields with
  | nil => exact ⟨empty, rfl, fun l => rfl⟩
  | cons kv fields ih =>
      obtain ⟨⟨l, t, rfl⟩, hfields⟩ := List.forall_mem_cons.mp h
      obtain ⟨table, hread, hget⟩ := ih hfields
      have ht := Toolchain.agrees.reads (a := t) trivial
      refine ⟨table.insert l t, ?_, fun l' => ?_⟩
      · rw [ofFields?, Language.ofName?_name, ht, hread]
        rfl
      · rw [get?_insert, Json.lookup_cons_eq_ite, hget]
        dsimp only
        simp only [Language.name_inj]
        split
        · exact ht.symm
        · rfl

/-- An entry as a field. -/
def entryField (e : Language × Toolchain) : String × Json := (e.1.name, e.2.toJson)

/-- The archived entries give for the name of a language what the table gives for it. -/
theorem lookup_entryField (table : ToolchainTable) (l : Language) :
    ((table.entries.map entryField).reverse.lookup l.name).bind Toolchain.ofJson?
      = table.get? l := by
  have hnodup : ((table.entries.map entryField).reverse.map Prod.fst).Nodup := by
    have hnames := table.nodup_languages.map fun _ _ => Language.name_inj.mp
    rw [List.map_map] at hnames
    rw [List.map_reverse, List.nodup_reverse, List.map_map]
    exact hnames
  ext t
  rw [get?_eq_some_iff, Option.bind_eq_some_iff]
  simp only [Json.lookup_eq_some_iff_mem hnodup, List.mem_reverse, List.mem_map]
  constructor
  · rintro ⟨_, ⟨e, he, heq⟩, hread⟩
    obtain ⟨hl, rfl⟩ := Prod.mk.inj heq
    rw [Toolchain.agrees.reads trivial] at hread
    cases hread
    cases Language.name_inj.mp hl
    exact he
  · exact fun hmem => ⟨t.toJson, ⟨(l, t), hmem, rfl⟩, Toolchain.agrees.reads trivial⟩

theorem agrees : Agrees toJson ofJson? (fun _ => True) 4 where
  plain {table} _ := by
    have hentries : ∀ kv ∈ table.entries.map entryField, kv.2.Plain 2 := by
      intro kv hkv
      obtain ⟨e, -, rfl⟩ := List.mem_map.mp hkv
      exact Toolchain.agrees.plain trivial
    have hfields := Json.Plain.ofFields hentries
    exact Json.Plain.ofFields (List.forall_mem_singleton.mpr hfields)
  reads {table} _ := by
    -- The archived entries are those of the table in another order; what is read from them gives the
    -- same toolchain for each language, and so is the same table.
    obtain ⟨sorted, hsorted, -, hmem⟩ := Json.exists_ofFields (table.entries.map entryField)
    have hlookup := fieldsOf_eq_lookup hsorted
    obtain ⟨table', hread, hget⟩ := ofFields?_get? fun kv hkv => by
      obtain ⟨e, -, rfl⟩ := List.mem_map.mp (hmem kv hkv)
      exact ⟨e.1, e.2, rfl⟩
    have heq : table' = table := eq_of_get?_eq fun l => by
      rw [hget, ← hlookup]
      exact table.lookup_entryField l
    subst heq
    rw [ofJson?, toJson, Option.bind_eq_bind]
    refine Option.bind_eq_some_iff.mpr ⟨_, record?_ofFields .., ?_⟩
    exact Option.bind_eq_some_iff.mpr ⟨.obj sorted, congrArg some hsorted, hread⟩
  ranged _ := trivial

end ToolchainTable

namespace Limits

structure InRange (l : Limits) : Prop where
  timeoutSecs : IsNat64 l.timeoutSecs
  compileTimeoutSecs : IsNat64 l.compileTimeoutSecs
  memoryLimitMb : IsNat64 l.memoryLimitMb

theorem inRange_default : InRange {} := ⟨by decide, by decide, by decide⟩

theorem agrees : Agrees toJson ofJson? InRange 1 where
  plain {l} hl := by
    have hrun := agrees_nat64.plain hl.timeoutSecs
    have hcompile := agrees_nat64.plain hl.compileTimeoutSecs
    have hmemory := agrees_nat64.plain hl.memoryLimitMb
    exact Json.Plain.ofFields (by simp [hrun, hcompile, hmemory])
  reads {l} hl := by
    simp only [ofJson?, Option.bind_eq_bind, Option.bind_eq_some_iff, Option.pure_def,
      Option.some.injEq]
    exact ⟨_, settings?_ofFields .., _, agrees_nat64.getD? hl.timeoutSecs rfl, _,
      agrees_nat64.getD? hl.compileTimeoutSecs rfl, _, agrees_nat64.getD? hl.memoryLimitMb rfl, rfl⟩
  ranged {j l} h := by
    simp only [ofJson?, Option.bind_eq_bind, Option.bind_eq_some_iff, Option.pure_def,
      Option.some.injEq] at h
    obtain ⟨fields, -, run, hrun, compile, hcompile, memory, hmemory, rfl⟩ := h
    have hdefault := inRange_default
    exact ⟨agrees_nat64.of_getD? hdefault.timeoutSecs hrun,
      agrees_nat64.of_getD? hdefault.compileTimeoutSecs hcompile,
      agrees_nat64.of_getD? hdefault.memoryLimitMb hmemory⟩

end Limits

end Remedy
