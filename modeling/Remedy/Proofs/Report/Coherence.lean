import Mathlib.Data.List.DropRight
import Remedy.Report.Extract

/-!
# Error records are coherent

Each reader of error reports fills a record by hand, but only in two ways: with a kind and a message,
or with these and a line, and then the text of that line goes with it. So a record tells all of an
error or none, and what it shows is the line it names, trimmed (`ofRun_explains`).
-/

namespace Remedy

open Remedy.Text

namespace Text

/-! ## Trimmed texts -/

/-- A text with ink at both of its ends. -/
structure Inked (s : List Char) : Prop where
  head : ∃ c, s.head? = some c ∧ isBlank c = false
  last : ∃ c, s.getLast? = some c ∧ isBlank c = false

theorem isBlank_of_head?_trimStart {s : List Char} {c : Char} (h : (trimStart s).head? = some c) :
    isBlank c = false := by
  have hhead := List.head?_dropWhile_not isBlank s
  rw [trimStart] at h
  rwa [h] at hhead

theorem inked_trim {s : List Char} (h : trim s ≠ []) : Inked (trim s) := by
  have hprefix : trim s <+: trimStart s := List.rdropWhile_prefix isBlank (trimStart s)
  constructor
  case head =>
    obtain ⟨rest, hrest⟩ := hprefix
    obtain ⟨c, tail, hc⟩ := List.exists_cons_of_ne_nil h
    rw [hc] at hrest ⊢
    exact ⟨c, rfl, isBlank_of_head?_trimStart (congrArg List.head? hrest.symm)⟩
  case last =>
    refine ⟨(trim s).getLast h, List.getLast?_eq_some_getLast h, ?_⟩
    exact Bool.eq_false_iff.mpr (List.rdropWhile_last_not isBlank (trimStart s) h)

theorem inked_of_sourceLine? {source text : String} {line : Nat}
    (h : sourceLine? source line = some text) : Inked text.toList := by
  unfold sourceLine? at h
  split at h
  · cases h
  split at h
  · cases h
  split at h
  · cases h
  rename_i hempty
  obtain rfl := Option.some.inj h
  rw [String.toList_ofList]
  exact inked_trim fun hnil => hempty (List.isEmpty_iff.mpr hnil)

end Text

/-! ## Coherent records -/

/-- A record of an error in a text: it tells nothing, or an error with a message; it suggests no
fix; it shows the line that it names, if the text has it; and what it shows is trimmed. -/
structure ErrorRecord.Coherent (source : String) (e : ErrorRecord) : Prop where
  empty : e.kind = none → e = .noError
  message : e.kind ≠ none → e.message ≠ none
  fix : e.fix = none
  snippet : ∀ line text, e.line = some line → sourceLine? source line = some text →
    e.snippet = some text
  inked : ∀ text, e.snippet = some text → Inked text.toList

/-- A reader that finds no incoherent record. -/
def Report.Sound (source : String) (found : Option ErrorRecord) : Prop :=
  ∀ e, found = some e → e.Coherent source

namespace Report

variable {source : String}

theorem coherent_noError : ErrorRecord.noError.Coherent source :=
  ⟨fun _ => rfl, fun h => absurd rfl h, rfl, nofun, nofun⟩

theorem coherent_ofKind (kind : ErrorKind) (message : String) :
    (ErrorRecord.ofKind kind message).Coherent source :=
  ⟨nofun, nofun, rfl, nofun, nofun⟩

/-- The line that a record shows is the one of the text, if there is one. -/
theorem snippet?_of_sourceLine? {line : Nat} {text : String} (printed : Option (List Char))
    (h : sourceLine? source line = some text) : snippet? source (some line) printed = some text := by
  rw [snippet?, Option.bind_some, h, Option.some_or]

theorem inked_of_snippet? {line : Option Nat} {printed : Option (List Char)} {text : String}
    (h : snippet? source line printed = some text) : Inked text.toList := by
  rw [snippet?, Option.or_eq_some_iff] at h
  rcases h with h | ⟨-, h⟩
  · obtain ⟨l, -, h⟩ := Option.bind_eq_some_iff.mp h
    exact inked_of_sourceLine? h
  · obtain ⟨shown, -, h⟩ := Option.bind_eq_some_iff.mp h
    split at h
    · cases h
    · rename_i hempty
      obtain rfl := Option.some.inj h
      rw [String.toList_ofList]
      exact inked_trim fun hnil => hempty (List.isEmpty_iff.mpr hnil)

theorem coherent_recordAt (kind : ErrorKind) (message : String) (line : Option Nat)
    (printed : Option (List Char)) : (recordAt kind message source line printed).Coherent source where
  empty := nofun
  message := nofun
  fix := rfl
  snippet l text hline htext := by
    have hl : line = some l := hline
    show snippet? source line printed = some text
    rw [hl]
    exact snippet?_of_sourceLine? printed htext
  inked text htext := inked_of_snippet? htext

/-- A coherent record lends its line and what it shows to an error of another kind. -/
theorem coherent_lend {e : ErrorRecord} (h : e.Coherent source) (kind : ErrorKind)
    (message : String) :
    ErrorRecord.Coherent source
      { ErrorRecord.ofKind kind message with line := e.line, snippet := e.snippet } :=
  ⟨nofun, nofun, rfl, h.snippet, h.inked⟩

/-! ## Readers -/

namespace Sound

variable {α : Type}

theorem none : Sound source none := nofun

theorem some {e : ErrorRecord} (h : e.Coherent source) : Sound source (some e) := by
  rintro e' heq
  obtain rfl := Option.some.inj heq
  exact h

theorem map {found : Option α} {record : α → ErrorRecord} (h : ∀ a, (record a).Coherent source) :
    Sound source (found.map record) := by
  rintro e heq
  obtain ⟨a, -, rfl⟩ := Option.map_eq_some_iff.mp heq
  exact h a

theorem bind {found : Option α} {next : α → Option ErrorRecord}
    (h : ∀ a, Sound source (next a)) : Sound source (found.bind next) := by
  rintro e heq
  obtain ⟨a, -, hnext⟩ := Option.bind_eq_some_iff.mp heq
  exact h a e hnext

theorem or {found later : Option ErrorRecord} (h : Sound source found)
    (h' : Sound source later) : Sound source (found.or later) := by
  rintro e heq
  rcases Option.or_eq_some_iff.mp heq with heq | ⟨-, heq⟩
  · exact h e heq
  · exact h' e heq

end Sound

theorem sound_compilerRecord {α : Type} {found : Option α} {line message : α → String} :
    Sound source (found.map fun m => compilerRecord source (line m) (message m)) :=
  .map fun _ => coherent_recordAt ..

variable {stderr : String}

theorem Python.sound_unreadable? : Sound source (Python.unreadable? stderr source) := by
  unfold Python.unreadable?
  refine .bind fun found => ?_
  dsimp only
  split
  · exact .some (coherent_recordAt ..)
  · exact .some (coherent_recordAt ..)

theorem Python.sound_traceback? (file : String) :
    Sound source (Python.traceback? stderr source file) := by
  unfold Python.traceback?
  exact .bind fun _ => .some (coherent_recordAt ..)

theorem JavaScript.sound_unreadable? : Sound source (JavaScript.unreadable? stderr source) := by
  unfold JavaScript.unreadable?
  refine .bind fun found => ?_
  dsimp only
  split
  · exact .some (coherent_recordAt ..)
  · exact .some (coherent_recordAt ..)

theorem JavaScript.sound_stack? (file : String) :
    Sound source (JavaScript.stack? stderr source file) := by
  unfold JavaScript.stack?
  exact .bind fun _ => .some (coherent_recordAt ..)

theorem Java.sound_stack? (file : String) : Sound source (Java.stack? stderr source file) := by
  unfold Java.stack?
  exact .bind fun _ => .some (coherent_recordAt ..)

theorem Go.sound_panicked? (file : String) : Sound source (Go.panicked? stderr source file) := by
  unfold Go.panicked?
  exact .bind fun _ => .some (coherent_recordAt ..)

theorem Shell.sound_error? : Sound source (Shell.error? stderr source) :=
  .map fun _ => coherent_recordAt ..

theorem Native.sound_compileError? : Sound source (Native.compileError? stderr source) := by
  unfold Native.compileError?
  dsimp only
  split
  · exact .some (coherent_recordAt ..)
  · exact .map fun _ => coherent_ofKind ..

theorem Native.sound_terminated? : Sound source (Native.terminated? stderr) :=
  .map fun _ => coherent_ofKind ..

variable (r : RunResult)

theorem Native.sound_crash? : Sound source (Native.crash? r source) := by
  unfold Native.crash?
  split
  · exact .none
  split
  · exact .some (coherent_ofKind ..)
  split
  · exact .some (coherent_ofKind ..)
  split
  · split
    · exact .some (coherent_recordAt ..)
    · exact .some (coherent_ofKind ..)
  · exact .none

/-- A reader of compile errors finds nothing unless the compile step failed. -/
theorem Sound.ite {p : Prop} [Decidable p] {found : Option ErrorRecord}
    (h : Sound source found) : Sound source (if p then found else Option.none) := by
  split
  · exact h
  · exact .none

theorem sound_diagnostic? : Sound source (diagnostic? r source) := by
  unfold diagnostic?
  cases r.language with
  | python => exact Python.sound_unreadable?
  | javaScript => exact JavaScript.sound_unreadable?
  | c => exact .ite Native.sound_compileError?
  | cpp => exact .ite Native.sound_compileError?
  | java => exact .ite sound_compilerRecord
  | go => exact .ite sound_compilerRecord
  | shell => exact Shell.sound_error?

theorem sound_unwound? : Sound source (unwound? r source) := by
  unfold unwound?
  cases r.language with
  | python => exact Python.sound_traceback? _
  | javaScript => exact JavaScript.sound_stack? _
  | java => exact Java.sound_stack? _
  | go => exact Go.sound_panicked? _
  | c => exact Native.sound_terminated?
  | cpp => exact Native.sound_terminated?
  | shell => exact .none

end Report

namespace ErrorRecord

open Report

/-! ## Runs -/

theorem coherent_ofRun (r : RunResult) (source : String) : (ofRun r source).Coherent source := by
  unfold ofRun
  split
  case h_1 => exact coherent_noError
  case h_2 => exact coherent_ofKind ..
  case h_3 =>
    split
    case h_1 unwound hunwound => exact coherent_lend (sound_unwound? r unwound hunwound) ..
    case h_2 => exact coherent_ofKind ..
  all_goals
    split
    · exact coherent_noError
    · cases hfound : ((diagnostic? r source).or (unwound? r source)).or (Native.crash? r source) with
      | none => exact coherent_noError
      | some e =>
          exact ((sound_diagnostic? r).or (sound_unwound? r)).or (Native.sound_crash? r) e hfound

theorem kind_ofRun_of_clean {r : RunResult} (source : String)
    (h : r.status = .spawnFailed ∨ r.status = .completed ∧ r.exitCode = 0) :
    (ofRun r source).kind = none := by
  unfold ofRun
  rcases h with h | h
  · rw [h]
    rfl
  · rw [h.1]
    dsimp only
    rw [if_pos ⟨rfl, h.2⟩]
    rfl

theorem kind_ofRun_of_timedOut {r : RunResult} (source : String) (h : r.status = .timedOut) :
    (ofRun r source).kind = some .timedOut := by
  unfold ofRun
  rw [h]
  rfl

theorem kind_ofRun_of_memoryExceeded {r : RunResult} (source : String)
    (h : r.status = .memoryExceeded) : (ofRun r source).kind = some .memoryExceeded := by
  unfold ofRun
  rw [h]
  dsimp only
  split <;> rfl

/-- A coherent record that tells an error only of a run that failed, and of a run that hit a limit
which one it was. -/
structure Explains (r : RunResult) (source : String) (e : ErrorRecord) : Prop
    extends e.Coherent source where
  clean : r.status = .spawnFailed ∨ r.status = .completed ∧ r.exitCode = 0 → e.kind = none
  timedOut : r.status = .timedOut → e.kind = some .timedOut
  memoryExceeded : r.status = .memoryExceeded → e.kind = some .memoryExceeded

/-- The record of a run is coherent with the text that ran, whatever the report of the run says, and
tells what the status of the run tells. -/
theorem ofRun_explains (r : RunResult) (source : String) :
    Explains r source (ofRun r source) where
  toCoherent := coherent_ofRun r source
  clean := kind_ofRun_of_clean source
  timedOut := kind_ofRun_of_timedOut source
  memoryExceeded := kind_ofRun_of_memoryExceeded source

end ErrorRecord

end Remedy
