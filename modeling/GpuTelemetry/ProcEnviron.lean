import GpuTelemetry.Dicts
import GpuTelemetry.Exceptions
import GpuTelemetry.GpuAttribution
import GpuTelemetry.PyStrings
import GpuTelemetry.Utf8

namespace GpuTelemetry

/-! ### The readers -/

/-- The byte behind every entry of an environ file. -/
def nul : Char := '\x00'

/-- `strings.TrimSuffix` for a suffix of one character. -/
def trimSuffix (c : Char) (s : Str) : Str := if s.getLast? = some c then s.dropLast else s

/-- The two parts of a line at its `=` signs, if there are two. -/
def twoParts (line : Str) : Option (Str × Str) :=
  match line.splitOn '=' with
  | [key, value] => some (key, value)
  | _ => none

def parseVarLoop (varName : Str) : List Str → Except Str Str
  | [] => .error ("could not find ".toList ++ varName ++ " in proc environ".toList)
  | line :: lines =>
    if line = [] then parseVarLoop varName lines
    else
      match twoParts line with
      | none => parseVarLoop varName lines
      | some (key, value) => if key = varName then .ok value else parseVarLoop varName lines

def parseVarFromProcEnvStr (env varName : Str) : Except Str Str :=
  parseVarLoop varName ((trimSuffix nul env).splitOn nul)

def readEnvLine (envMap : Str → Option Str) (line : Str) : Str → Option Str :=
  if line = [] then envMap
  else
    match twoParts line with
    | some (key, value) => Function.update envMap key (some value)
    | none => envMap

def parseProcEnvStrToMap (env : Str) : Str → Option Str :=
  ((trimSuffix nul env).splitOn nul).foldl readEnvLine fun _ => none

/-- `dict` of the entries split at their first `=`; the index is for the error. -/
def dictOfEntries (envVars : List (Str × Str)) (index : Nat) : List Str → Except PyError (List (Str × Str))
  | [] => .ok envVars
  | v :: vs =>
    match splitFirst '=' v with
    | (key, some value) => dictOfEntries (dictSet key value envVars) (index + 1) vs
    | (_, none) => .error (.valueError ("dictionary update sequence element #".toList ++ decimal index ++
        " has length 1; 2 is required".toList))

/-- The line ends of text mode: `\r\n` and `\r` become `\n`. -/
def translateNewlines (s : Str) : Str := (joinCrLf s).map fun c => if c = '\r' then '\n' else c

/-- `get_command_output` of a command that writes these bytes and exits with 0. -/
def getCommandOutput (out : Str) : Except PyError Str :=
  match utf8Decode out with
  | some text => .ok (translateNewlines text)
  | none => .error .unicodeDecodeError

def readEnvironFromProc (processId : Int) (runCmd : List Str → Except PyError Str) :
    Except PyError (List (Str × Str)) := do
  let envVarsRaw ← runCmd ["sudo".toList, "cat".toList, "/proc/".toList ++ intText processId ++ "/environ".toList]
  dictOfEntries [] 0 ((envVarsRaw.splitOn nul).filter (· ≠ []))

/-! ### Environments -/

/-- An entry `KEY=VALUE` in bytes, which are written as characters. -/
structure EnvEntry where
  key : Str
  value : Str
  keyPlain : nul ∉ key ∧ '=' ∉ key
  valuePlain : nul ∉ value
  bytes : (∀ c ∈ key, c.toNat < 256) ∧ ∀ c ∈ value, c.toNat < 256

def EnvEntry.text (e : EnvEntry) : Str := keyed e.key e.value

def EnvEntry.pair (e : EnvEntry) : Str × Str := (e.key, e.value)

/-- A process's environment: entries with distinct keys. -/
structure Environ where
  entries : List EnvEntry
  distinct : (entries.map EnvEntry.key).Nodup

/-- What `/proc/<pid>/environ` holds. -/
def Environ.text (env : Environ) : Str := env.entries.flatMap fun e => e.text ++ [nul]

def Environ.get (env : Environ) (key : Str) : Option Str := dictGet (env.entries.map EnvEntry.pair) key

/-- The three readers give the same value for every key, that of the environment.
The Go readers get the bytes of the file and the Python reader the output of
`cat`; a key or value of its dict stands for the bytes it has in UTF-8. -/
def ReadersAgree (env : Environ) (processId : Int) : Prop :=
  (∀ key, parseProcEnvStrToMap env.text key = env.get key ∧
    (parseVarFromProcEnvStr env.text key).toOption = env.get key) ∧
  ∃ envVars, readEnvironFromProc processId (fun _ => getCommandOutput env.text) = .ok envVars ∧
    ∀ key, (dictGet envVars key).map utf8Text = env.get (utf8Text key)

/-- No key and no value has a carriage return, and no value an `=`. -/
def EnvEntry.Plain (e : EnvEntry) : Prop := '=' ∉ e.value ∧ '\r' ∉ e.key ∧ '\r' ∉ e.value

/-! ### Lines -/

/-- What a trailing separator leaves is an empty line. -/
theorem trimSuffix_lines (c : Char) (s : Str) :
    ((trimSuffix c s).splitOn c).filter (· ≠ []) = (s.splitOn c).filter (· ≠ []) := by
  unfold trimSuffix
  split
  · rename_i ends
    have whole : s = s.dropLast ++ c :: [] := (List.dropLast_append_getLast? c ends).symm
    conv_rhs => rw [whole, List.splitOn_append_cons_self, List.filter_append]
    simp
  · rfl

theorem EnvEntry.text_ne_nil (e : EnvEntry) : e.text ≠ [] := by
  simp [EnvEntry.text, keyed]

theorem EnvEntry.nul_not_mem_text (e : EnvEntry) : nul ∉ e.text := by
  simp only [EnvEntry.text, keyed, List.mem_append, List.mem_cons, not_or]
  exact ⟨e.keyPlain.1, by decide, e.valuePlain⟩

theorem environ_lines (entries : List EnvEntry) :
    ((entries.flatMap fun e => e.text ++ [nul]).splitOn nul).filter (· ≠ []) = entries.map EnvEntry.text := by
  induction entries with
  | nil => simp
  | cons e entries ih =>
    rw [List.flatMap_cons, List.append_assoc, List.singleton_append,
      List.splitOn_append_cons_self_of_not_mem e.nul_not_mem_text, List.filter_cons_of_pos (by simp [e.text_ne_nil]),
      ih, List.map_cons]

/-- An entry whose value has an `=` does not have two parts. -/
theorem twoParts_entry (e : EnvEntry) : twoParts e.text = if '=' ∈ e.value then none else some e.pair := by
  have parts : e.text.splitOn '=' = e.key :: e.value.splitOn '=' :=
    List.splitOn_append_cons_self_of_not_mem e.keyPlain.2 _
  rw [twoParts, parts]
  by_cases member : '=' ∈ e.value
  · obtain ⟨before, after, split, absent⟩ := List.eq_append_cons_of_mem member
    rw [if_pos member, split, List.splitOn_append_cons_self_of_not_mem absent]
    cases rest : after.splitOn '=' with
    | nil => exact absurd rest (List.splitOn_ne_nil _ _)
    | cons part rest => rfl
  · rw [if_neg member, List.splitOn_eq_singleton member]
    rfl

/-! ### What the readers give -/

/-- The entries with one `=`. -/
def Environ.plainPairs (env : Environ) : List (Str × Str) :=
  (env.entries.filter fun e => decide ('=' ∉ e.value)).map EnvEntry.pair

theorem pairs_keys (entries : List EnvEntry) : (entries.map EnvEntry.pair).map Prod.fst = entries.map EnvEntry.key := by
  rw [List.map_map]
  rfl

theorem Environ.pairs_distinct (env : Environ) : ((env.entries.map EnvEntry.pair).map Prod.fst).Nodup := by
  rw [pairs_keys]
  exact env.distinct

theorem Environ.get_of_mem {env : Environ} {e : EnvEntry} (member : e ∈ env.entries) :
    env.get e.key = some e.value := by
  have inPairs : (e.key, e.value) ∈ env.entries.map EnvEntry.pair := List.mem_map.mpr ⟨e, member, rfl⟩
  rw [Environ.get, dictGet_of_mem env.pairs_distinct inPairs]

theorem Environ.plainPairs_get_iff (env : Environ) (key value : Str) :
    dictGet env.plainPairs key = some value ↔ env.get key = some value ∧ '=' ∉ value := by
  have distinct : (env.plainPairs.map Prod.fst).Nodup := by
    rw [Environ.plainPairs, pairs_keys]
    exact env.distinct.sublist (List.filter_sublist.map _)
  constructor
  · intro found
    obtain ⟨e, inPlain, same⟩ := List.mem_map.mp (mem_of_dictGet found)
    obtain ⟨rfl, rfl⟩ := Prod.mk.inj same
    obtain ⟨inEntries, plain⟩ := List.mem_filter.mp inPlain
    exact ⟨Environ.get_of_mem inEntries, by simpa using plain⟩
  · rintro ⟨found, plain⟩
    obtain ⟨e, inEntries, same⟩ := List.mem_map.mp (mem_of_dictGet found)
    obtain ⟨rfl, rfl⟩ := Prod.mk.inj same
    have inPlain : e ∈ env.entries.filter fun e => decide ('=' ∉ e.value) :=
      List.mem_filter.mpr ⟨inEntries, decide_eq_true plain⟩
    exact dictGet_of_mem distinct (List.mem_map.mpr ⟨e, inPlain, rfl⟩)

theorem parseVarLoop_filter (varName : Str) (lines : List Str) :
    parseVarLoop varName lines = parseVarLoop varName (lines.filter (· ≠ [])) := by
  induction lines with
  | nil => rfl
  | cons line lines ih =>
    by_cases empty : line = []
    · rw [parseVarLoop, if_pos empty, ih, List.filter_cons_of_neg (by simpa using empty)]
    · rw [List.filter_cons_of_pos (by simpa using empty), parseVarLoop, parseVarLoop, ih]

theorem foldl_readEnvLine_filter (envMap : Str → Option Str) (lines : List Str) :
    lines.foldl readEnvLine envMap = (lines.filter (· ≠ [])).foldl readEnvLine envMap := by
  induction lines generalizing envMap with
  | nil => rfl
  | cons line lines ih =>
    by_cases empty : line = []
    · rw [List.foldl_cons, ih, List.filter_cons_of_neg (by simpa using empty), readEnvLine, if_pos empty]
    · rw [List.filter_cons_of_pos (by simpa using empty), List.foldl_cons, List.foldl_cons, ih]

/-- `parseVarFromProcEnvStr` finds the variables whose values have no `=`. -/
theorem parseVarFromProcEnvStr_text (env : Environ) (varName : Str) :
    (parseVarFromProcEnvStr env.text varName).toOption = dictGet env.plainPairs varName := by
  rw [parseVarFromProcEnvStr, parseVarLoop_filter, trimSuffix_lines, Environ.text, environ_lines, Environ.plainPairs]
  generalize env.entries = entries
  induction entries with
  | nil => rfl
  | cons e entries ih =>
    rw [List.map_cons, parseVarLoop, if_neg e.text_ne_nil, twoParts_entry]
    by_cases member : '=' ∈ e.value
    · rw [if_pos member, List.filter_cons_of_neg (by simpa using member)]
      exact ih
    · rw [if_neg member, List.filter_cons_of_pos (by simpa using member), List.map_cons, EnvEntry.pair, dictGet_cons]
      by_cases same : varName = e.key
      · simp [same, Except.toOption]
      · rw [if_neg same, ← ih]
        simp [Ne.symm same]

theorem foldl_readEnvLine {entries : List EnvEntry} (distinct : (entries.map EnvEntry.key).Nodup)
    (envMap : Str → Option Str) (key : Str) : (entries.map EnvEntry.text).foldl readEnvLine envMap key =
      (dictGet ((entries.filter fun e => decide ('=' ∉ e.value)).map EnvEntry.pair) key).or (envMap key) := by
  induction entries generalizing envMap with
  | nil => rfl
  | cons e entries ih =>
    rw [List.map_cons, List.nodup_cons] at distinct
    rw [List.map_cons, List.foldl_cons, ih distinct.2, readEnvLine, if_neg e.text_ne_nil, twoParts_entry]
    by_cases member : '=' ∈ e.value
    · rw [if_pos member, List.filter_cons_of_neg (by simpa using member)]
    · rw [if_neg member, List.filter_cons_of_pos (by simpa using member), List.map_cons, EnvEntry.pair, dictGet_cons]
      by_cases same : key = e.key
      · have absent : e.key ∉ ((entries.filter fun e => decide ('=' ∉ e.value)).map EnvEntry.pair).map Prod.fst := by
          rw [pairs_keys]
          exact fun inKeys => distinct.1 ((List.filter_sublist.map _).subset inKeys)
        rw [same, if_pos rfl, dictGet_eq_none absent]
        simp
      · simp [same]

/-- `parseProcEnvStrToMap` keeps the same variables. -/
theorem parseProcEnvStrToMap_text (env : Environ) (key : Str) :
    parseProcEnvStrToMap env.text key = dictGet env.plainPairs key := by
  rw [parseProcEnvStrToMap, foldl_readEnvLine_filter, trimSuffix_lines, Environ.text, environ_lines,
    foldl_readEnvLine env.distinct, Option.or_none, Environ.plainPairs]

/-! ### What the Python reader gives -/

theorem translateNewlines_of_none {s : Str} (none : '\r' ∉ s) : translateNewlines s = s := by
  rw [translateNewlines, joinCrLf_eq none]
  refine (List.map_congr_left fun c member => ?_).trans (List.map_id s)
  have other : c ≠ '\r' := fun same => none (same ▸ member)
  exact if_neg other

theorem not_mem_translateNewlines (s : Str) : '\r' ∉ translateNewlines s := by
  intro member
  obtain ⟨c, -, same⟩ := List.mem_map.mp member
  split at same
  · exact absurd same (by decide)
  · rename_i other
    exact other same

theorem Environ.small (env : Environ) : ∀ c ∈ env.text, c.toNat < 256 := by
  intro c member
  obtain ⟨e, -, inLine⟩ := List.mem_flatMap.mp member
  simp only [EnvEntry.text, keyed, List.append_assoc, List.cons_append, List.mem_append, List.mem_cons,
    List.not_mem_nil, or_false] at inLine
  rcases inLine with inKey | rfl | inValue | rfl
  · exact e.bytes.1 c inKey
  · decide
  · exact e.bytes.2 c inValue
  · decide

/-- The lines of a decoded block are those of its entries. -/
theorem decoded_lines {env : Environ} {text : Str} (decoded : utf8Text text = env.text) :
    ((text.splitOn nul).filter (· ≠ [])).map utf8Text = env.entries.map EnvEntry.text := by
  have same : (fun line : Str => decide (line ≠ [])) = (fun line => decide (line ≠ [])) ∘ utf8Text := by
    funext line
    have empty : utf8Text line = [] ↔ line = [] := utf8Text_injective.eq_iff' utf8Text_nil
    simp only [Function.comp_apply, ne_eq, empty]
  rw [same, ← List.filter_map, ← splitOn_utf8Text (by decide), decoded]
  exact environ_lines env.entries

/-- A line whose bytes are an entry is the entry's key and value, decoded. -/
theorem decoded_entry {e : EnvEntry} {line : Str} (decoded : utf8Text line = e.text) :
    ∃ key value, line = keyed key value ∧ '=' ∉ key ∧ utf8Text key = e.key ∧ utf8Text value = e.value := by
  have member : '=' ∈ line := by
    rw [← mem_utf8Text_iff (by decide), decoded]
    simp [EnvEntry.text, keyed]
  obtain ⟨key, value, whole, absent⟩ := List.eq_append_cons_of_mem member
  have absent' : '=' ∉ utf8Text key := fun inside => absent ((mem_utf8Text_iff (by decide) key).mp inside)
  have text : keyed (utf8Text key) (utf8Text value) = keyed e.key e.value := by
    rw [keyed, ← EnvEntry.text.eq_1, ← decoded, whole, utf8Text_append, utf8Text_cons,
      utf8EncodeChar_ascii (by decide)]
    rfl
  have parts := congrArg (splitFirst '=') text
  rw [splitFirst_keyed _ absent', splitFirst_keyed _ e.keyPlain.2, Prod.mk.injEq, Option.some.injEq] at parts
  exact ⟨key, value, whole, absent, parts⟩

theorem dictOfEntries_entries {entries : List EnvEntry} {lines : List Str}
    (decoded : lines.map utf8Text = entries.map EnvEntry.text) (envVars : List (Str × Str)) (index : Nat) :
    ∃ pairs : List (Str × Str), dictOfEntries envVars index lines = .ok (dictUpdate envVars pairs) ∧
      pairs.map (fun pair => (utf8Text pair.1, utf8Text pair.2)) = entries.map EnvEntry.pair := by
  induction lines generalizing entries envVars index with
  | nil =>
    cases entries with
    | nil => exact ⟨[], rfl, rfl⟩
    | cons e entries => simp at decoded
  | cons line lines ih =>
    cases entries with
    | nil => simp at decoded
    | cons e entries =>
      obtain ⟨first, later⟩ := List.cons.inj decoded
      obtain ⟨key, value, rfl, noEquals, keyEq, valueEq⟩ := decoded_entry first
      obtain ⟨pairs, run, same⟩ := ih later (dictSet key value envVars) (index + 1)
      refine ⟨(key, value) :: pairs, ?_, ?_⟩
      · rw [dictOfEntries, splitFirst_keyed value noEquals]
        exact run
      · rw [List.map_cons, same, keyEq, valueEq]
        rfl

/-- On a block that is UTF-8 and has no carriage return the Python reader gives
the environment. -/
theorem readEnvironFromProc_text {env : Environ} (processId : Int) {text : Str} (decoded : utf8Text text = env.text)
    (plain : '\r' ∉ env.text) : ∃ envVars,
    readEnvironFromProc processId (fun _ => getCommandOutput env.text) = .ok envVars ∧
      ∀ key, (dictGet envVars key).map utf8Text = env.get (utf8Text key) := by
  have noReturn : '\r' ∉ text := by rwa [← mem_utf8Text_iff (by decide), decoded]
  have output : getCommandOutput env.text = .ok text := by
    rw [getCommandOutput, (utf8Decode_eq_some_iff env.small).mpr decoded]
    exact congrArg Except.ok (translateNewlines_of_none noReturn)
  obtain ⟨pairs, run, same⟩ := dictOfEntries_entries (decoded_lines decoded) [] 0
  have distinct : (pairs.map Prod.fst).Nodup := by
    have keys := congrArg (List.map Prod.fst) same
    have nodup := env.pairs_distinct
    rw [← keys, List.map_map] at nodup
    rw [← List.nodup_map_iff utf8Text_injective, List.map_map]
    exact nodup
  refine ⟨dictUpdate [] pairs, ?_, fun key => ?_⟩
  · rw [readEnvironFromProc, output]
    exact run
  · rw [dictGet_dictUpdate distinct, Environ.get, ← same]
    have split : pairs.map (fun pair => (utf8Text pair.1, utf8Text pair.2)) =
        (pairs.map fun pair => (pair.1, utf8Text pair.2)).map fun pair => (utf8Text pair.1, pair.2) := by
      rw [List.map_map]
      rfl
    rw [split, dictGet_mapKeys utf8Text_injective, dictGet_mapValues]
    exact congrArg (Option.map utf8Text) Option.or_none

theorem eq_of_splitFirst {sep : Char} {s key value : Str} (parts : splitFirst sep s = (key, some value)) :
    s = key ++ sep :: value := by
  by_cases member : sep ∈ s
  · obtain ⟨before, after, whole, absent⟩ := List.eq_append_cons_of_mem member
    rw [whole, splitFirst_append after absent, Prod.mk.injEq, Option.some.injEq] at parts
    rw [whole, parts.1, parts.2]
  · have dropped : s.dropWhile (· ≠ sep) = [] := by
      refine List.dropWhile_eq_nil_iff.mpr fun c inText => ?_
      simpa using fun same : c = sep => member (same ▸ inText)
    simp only [splitFirst, dropped] at parts
    cases parts

/-- What the dict is made of comes from the lines. -/
theorem dictOfEntries_subset {c : Char} {lines : List Str} {envVars d : List (Str × Str)} {index : Nat}
    (run : dictOfEntries envVars index lines = .ok d) (absent : ∀ line ∈ lines, c ∉ line)
    (before : ∀ pair ∈ envVars, c ∉ pair.1 ∧ c ∉ pair.2) : ∀ pair ∈ d, c ∉ pair.1 ∧ c ∉ pair.2 := by
  induction lines generalizing envVars index with
  | nil =>
    obtain rfl := Except.ok.inj run
    exact before
  | cons line lines ih =>
    have clean := absent line List.mem_cons_self
    rw [dictOfEntries] at run
    cases parts : splitFirst '=' line with
    | mk key rest =>
      cases rest with
      | none => simp [parts] at run
      | some value =>
        rw [parts] at run
        refine ih run (fun later member => absent later (List.mem_cons_of_mem _ member)) fun pair member => ?_
        rcases mem_dictModify member with old | ⟨_, -, new⟩
        · exact before pair old
        · rw [eq_of_splitFirst parts] at clean
          rw [new]
          exact ⟨not_mem_of_append_left clean, fun inValue =>
            not_mem_of_append_right clean (List.mem_cons_of_mem _ inValue)⟩

/-- The dict of the Python reader has no carriage return. -/
theorem not_mem_readEnvironFromProc {env : Environ} {processId : Int} {envVars : List (Str × Str)}
    (run : readEnvironFromProc processId (fun _ => getCommandOutput env.text) = .ok envVars) :
    (∃ text, utf8Decode env.text = some text) ∧ ∀ pair ∈ envVars, '\r' ∉ pair.1 ∧ '\r' ∉ pair.2 := by
  rw [readEnvironFromProc, getCommandOutput] at run
  cases decoded : utf8Decode env.text with
  | none => simp [decoded, bind, Except.bind] at run
  | some text =>
    rw [decoded] at run
    refine ⟨⟨text, rfl⟩, dictOfEntries_subset (c := '\r') run (fun line member inLine => ?_) (by simp)⟩
    exact not_mem_translateNewlines text (mem_of_mem_splitOnP (List.mem_filter.mp member).1 _ inLine).1

/-- The readers agree on an environment exactly when no value has an `=`, no key
and no value has a carriage return, and the block is UTF-8. -/
theorem environ_readers_agree_iff (env : Environ) (processId : Int) : ReadersAgree env processId ↔
    (∀ e ∈ env.entries, e.Plain) ∧ ∃ text, utf8Decode env.text = some text := by
  constructor
  · rintro ⟨go, envVars, run, python⟩
    obtain ⟨⟨text, decoded⟩, clean⟩ := not_mem_readEnvironFromProc run
    refine ⟨fun e inEntries => ?_, text, decoded⟩
    have noEquals : '=' ∉ e.value := by
      have read := (go e.key).1
      rw [parseProcEnvStrToMap_text, Environ.get_of_mem inEntries, env.plainPairs_get_iff] at read
      exact read.2
    have inLines : e.text ∈ ((text.splitOn nul).filter (· ≠ [])).map utf8Text := by
      rw [decoded_lines ((utf8Decode_eq_some_iff env.small).mp decoded)]
      exact List.mem_map_of_mem inEntries
    obtain ⟨line, -, lineEq⟩ := List.mem_map.mp inLines
    obtain ⟨key, value, -, -, keyEq, -⟩ := decoded_entry lineEq
    have found := python key
    rw [keyEq, Environ.get_of_mem inEntries, Option.map_eq_some_iff] at found
    obtain ⟨given, inDict, givenEq⟩ := found
    obtain ⟨keyClean, valueClean⟩ := clean (key, given) (mem_of_dictGet inDict)
    refine ⟨noEquals, ?_, ?_⟩
    · rwa [← keyEq, mem_utf8Text_iff (by decide)]
    · rwa [← givenEq, mem_utf8Text_iff (by decide)]
  · rintro ⟨plain, text, decoded⟩
    have noReturn : '\r' ∉ env.text := by
      intro member
      obtain ⟨e, inEntries, inLine⟩ := List.mem_flatMap.mp member
      obtain ⟨-, inKey, inValue⟩ := plain e inEntries
      simp [EnvEntry.text, keyed, nul, inKey, inValue] at inLine
    have all : env.plainPairs = env.entries.map EnvEntry.pair := by
      rw [Environ.plainPairs, List.filter_eq_self.mpr fun e member => by simpa using (plain e member).1]
    refine ⟨fun key => ⟨?_, ?_⟩, readEnvironFromProc_text processId ((utf8Decode_eq_some_iff env.small).mp decoded)
      noReturn⟩
    · rw [parseProcEnvStrToMap_text, all, Environ.get]
    · rw [parseVarFromProcEnvStr_text, all, Environ.get]

/-- An environment with a value that has an `=`. -/
def colorsEnviron : Environ where
  entries := [⟨"LS_COLORS".toList, "di=34".toList, by decide, by decide, by decide⟩]
  distinct := by decide

/-- The map of the Go reader lacks the variable. -/
theorem environ_readers_disagree : colorsEnviron.text = "LS_COLORS=di=34\x00".toList ∧
    ¬ReadersAgree colorsEnviron 7 := by
  refine ⟨by decide, ?_⟩
  rintro ⟨go, -⟩
  have read := (go "LS_COLORS".toList).1
  revert read
  decide

end GpuTelemetry
