import Zenith.Python
import Mathlib.Data.String.Basic
import Mathlib.Data.Finset.Basic

/-!
# Forwarding the environment to sshd

`start` forwards every environment variable whose name starts with `ZENITH_SSHD_` to the
sessions of the sshd it runs, as the value of a `SetEnv` option on sshd's command line:
`NAME="VALUE"` for each variable, joined by blanks.  sshd splits that value into words with
OpenSSH's `argv_split`.  The quotes protect blanks, but nothing protects a double quote or a
backslash inside a value: a value with either does not come back as it was.

Before it execs sshd, `start` runs `ensure_hostkeys`, which runs ssh-keygen for each host key
whose file is missing in the run directory.  Given that each ssh-keygen call creates its key
file, the loop generates exactly the missing keys, and a second run generates none.

OpenSSH is not part of this repository: its `argv_split` (`misc.c`, with comments ending the line)
is modelled from the spec.  Blanks and tabs separate words; a double or single quote opens a span
that the same quote closes; a backslash escapes a backslash, either quote, or a blank outside
quotes, and is kept before any other character; a `#` where a word would start ends the line; a
quote left open is an error.
-/

namespace Zenith

namespace Sshd

/-- `forward_env` in `start`: the `SetEnv` value built from the process environment, its
variables in `os.environ` order. -/
def forwardEnv (environ : List (String × String)) : String :=
  " ".intercalate <| (environ.filter fun entry => startswith entry.1 "ZENITH_SSHD_").map
    fun (name, value) => s!"{name}=\"{value}\""

/-- The words sshd should see: `NAME=VALUE` for each forwarded variable. -/
def forwarded (environ : List (String × String)) : List String :=
  (environ.filter fun entry => startswith entry.1 "ZENITH_SSHD_").map
    fun (name, value) => name ++ "=" ++ value

/-- Where the splitter is: between words, in a comment, in a word (inside `quote`, if any), or
just after a backslash in a word. -/
inductive Mode where
  | between
  | comment
  | word (chars : List Char) (quote : Option Char)
  | escape (chars : List Char) (quote : Option Char)

structure SplitState where
  words : List String
  mode : Mode

def isBlank (c : Char) : Bool := c = ' ' || c = '\t'

/-- A character in a word that is not a backslash. -/
def wordChar (words : List String) (chars : List Char) (c : Char) :
    Option Char → SplitState
  | none =>
    if isBlank c then ⟨words ++ [String.mk chars], .between⟩
    else if c = '"' || c = '\'' then ⟨words, .word chars (some c)⟩
    else ⟨words, .word (chars ++ [c]) none⟩
  | some quote =>
    if c = quote then ⟨words, .word chars none⟩ else ⟨words, .word (chars ++ [c]) (some quote)⟩

def step (s : SplitState) (c : Char) : SplitState :=
  match s.mode with
  | .between =>
    if isBlank c then s
    else if c = '#' then ⟨s.words, .comment⟩
    else if c = '\\' then ⟨s.words, .escape [] none⟩
    else wordChar s.words [] c none
  | .comment => s
  | .word chars quote =>
    if c = '\\' then ⟨s.words, .escape chars quote⟩ else wordChar s.words chars c quote
  | .escape chars quote =>
    if c = '\'' || c = '"' || c = '\\' || (quote.isNone && c = ' ') then
      ⟨s.words, .word (chars ++ [c]) quote⟩
    else wordChar s.words (chars ++ ['\\']) c quote

def finish (s : SplitState) : Option (List String) :=
  match s.mode with
  | .between | .comment => some s.words
  | .word chars none => some (s.words ++ [String.mk chars])
  | .escape chars none => some (s.words ++ [String.mk (chars ++ ['\\'])])
  | .word _ (some _) | .escape _ (some _) => none

/-- The words of an option's arguments, or `none` for a quote left open. -/
def argvSplit (s : String) : Option (List String) := finish (s.data.foldl step ⟨[], .between⟩)

/-- A character that stands for itself in a word outside quotes. -/
def plainChar (c : Char) : Bool := !(isBlank c || c = '"' || c = '\'' || c = '\\')

/-- A variable that survives the round trip: its name has no blank, quote or backslash, and its
value no double quote or backslash. -/
def Plain (name value : String) : Prop :=
  (∀ c ∈ name.data, plainChar c) ∧ ∀ c ∈ value.data, c ≠ '"' ∧ c ≠ '\\'

instance (name value : String) : Decidable (Plain name value) :=
  inferInstanceAs (Decidable (_ ∧ _))

theorem step_word_plain (words : List String) (chars : List Char) {c : Char}
    (plain : plainChar c) :
    step ⟨words, .word chars none⟩ c = ⟨words, .word (chars ++ [c]) none⟩ := by
  simp only [plainChar, isBlank, Bool.not_or, Bool.and_eq_true, Bool.not_eq_true',
    decide_eq_false_iff_not] at plain
  simp [step, wordChar, isBlank, plain]

theorem step_quoted_plain (words : List String) (chars : List Char) {c : Char}
    (plain : c ≠ '"' ∧ c ≠ '\\') :
    step ⟨words, .word chars (some '"')⟩ c = ⟨words, .word (chars ++ [c]) (some '"')⟩ := by
  simp [step, wordChar, plain]

theorem foldl_step_plain (words : List String) (chars cs : List Char)
    (plain : ∀ c ∈ cs, plainChar c) :
    cs.foldl step ⟨words, .word chars none⟩ = ⟨words, .word (chars ++ cs) none⟩ := by
  induction cs generalizing chars with
  | nil => simp
  | cons c cs ih =>
    rw [List.foldl_cons, step_word_plain _ _ (plain c (.head cs)),
      ih _ fun c mem => plain c (.tail _ mem), List.append_assoc, List.singleton_append]

theorem foldl_step_quoted (words : List String) (chars cs : List Char)
    (plain : ∀ c ∈ cs, c ≠ '"' ∧ c ≠ '\\') :
    cs.foldl step ⟨words, .word chars (some '"')⟩ =
      ⟨words, .word (chars ++ cs) (some '"')⟩ := by
  induction cs generalizing chars with
  | nil => simp
  | cons c cs ih =>
    rw [List.foldl_cons, step_quoted_plain _ _ (plain c (.head cs)),
      ih _ fun c mem => plain c (.tail _ mem), List.append_assoc, List.singleton_append]

/-- The word a forwarded variable becomes. -/
def tokenWord (name value : String) : List Char := name.data ++ '=' :: value.data

/-- From between words, `NAME="VALUE"` is read as the word `NAME=VALUE`. -/
theorem foldl_step_token (words : List String) (name value : String)
    (forwardedName : startswith name "ZENITH_SSHD_") (plain : Plain name value) :
    (s!"{name}=\"{value}\"").data.foldl step ⟨words, .between⟩ =
      ⟨words, .word (tokenWord name value) none⟩ := by
  obtain ⟨rest, named⟩ := List.isPrefixOf_iff_prefix.mp forwardedName
  obtain ⟨cs, first⟩ : ∃ cs, name.data = 'Z' :: cs := ⟨_, named.symm⟩
  have data : (s!"{name}=\"{value}\"").data =
      'Z' :: (cs ++ '=' :: '"' :: (value.data ++ ['"'])) := by
    simp [toString, first]
  have csPlain : ∀ c ∈ cs, plainChar c := fun c mem => plain.1 c (first ▸ .tail _ mem)
  rw [data, List.foldl_cons, show step ⟨words, .between⟩ 'Z' = ⟨words, .word ['Z'] none⟩ from rfl,
    List.foldl_append, foldl_step_plain _ _ _ csPlain, List.foldl_cons,
    step_word_plain _ _ (by decide), List.foldl_cons,
    show step ⟨words, .word (['Z'] ++ cs ++ ['=']) none⟩ '"' =
      ⟨words, .word (['Z'] ++ cs ++ ['=']) (some '"')⟩ from rfl,
    List.foldl_append, foldl_step_quoted _ _ _ plain.2]
  simp [step, wordChar, tokenWord, first]

theorem mk_tokenWord (name value : String) :
    String.mk (tokenWord name value) = name ++ "=" ++ value := by
  apply String.ext
  simp [tokenWord]

theorem data_intercalate_go (sep acc : String) (l : List String) :
    (String.intercalate.go acc sep l).data =
      acc.data ++ (l.map fun b => sep.data ++ b.data).flatten := by
  induction l generalizing acc with
  | nil => simp [String.intercalate.go]
  | cons b l ih => simp [String.intercalate.go, ih]

/-- After a blank, each further variable adds its word. -/
theorem finish_foldl_tokens (words : List String) (chars : List Char)
    (rest : List (String × String))
    (plain : ∀ entry ∈ rest, startswith entry.1 "ZENITH_SSHD_" ∧ Plain entry.1 entry.2) :
    finish ((rest.map fun (name, value) => " ".data ++ (s!"{name}=\"{value}\"").data).flatten.foldl
        step ⟨words, .word chars none⟩) =
      some (words ++ String.mk chars :: rest.map fun (name, value) => name ++ "=" ++ value) := by
  induction rest generalizing words chars with
  | nil => rfl
  | cons entry rest ih =>
    obtain ⟨name, value⟩ := entry
    obtain ⟨forwardedName, plainEntry⟩ := plain _ (.head rest)
    rw [List.map_cons, List.flatten_cons, List.foldl_append, List.foldl_append,
      show " ".data.foldl step ⟨words, .word chars none⟩ =
        ⟨words ++ [String.mk chars], .between⟩ from rfl,
      foldl_step_token _ _ _ forwardedName plainEntry,
      ih _ _ fun entry mem => plain entry (.tail _ mem), mk_tokenWord]
    simp

/-- Variables whose names have no blank, quote or backslash and whose values have no double
quote or backslash come back from sshd's splitting exactly as they were, in order. -/
theorem argvSplit_forwardEnv (environ : List (String × String))
    (plain : ∀ entry ∈ environ, startswith entry.1 "ZENITH_SSHD_" → Plain entry.1 entry.2) :
    argvSplit (forwardEnv environ) = some (forwarded environ) := by
  unfold argvSplit forwardEnv forwarded
  generalize named : environ.filter (fun entry => startswith entry.1 "ZENITH_SSHD_") = l
  have plainAll : ∀ entry ∈ l, startswith entry.1 "ZENITH_SSHD_" ∧ Plain entry.1 entry.2 := by
    intro entry mem
    rw [← named, List.mem_filter] at mem
    exact ⟨mem.2, plain entry mem.1 mem.2⟩
  cases l with
  | nil => rfl
  | cons entry rest =>
    obtain ⟨name, value⟩ := entry
    obtain ⟨forwardedName, plainEntry⟩ := plainAll _ (.head rest)
    rw [List.map_cons, String.intercalate, data_intercalate_go, List.foldl_append,
      foldl_step_token _ _ _ forwardedName plainEntry, List.map_map]
    have := finish_foldl_tokens [] (tokenWord name value) rest
      fun entry mem => plainAll entry (.tail _ mem)
    rw [mk_tokenWord] at this
    simpa [Function.comp_def] using this

/-- Blanks inside a value are protected by its quotes. -/
theorem argvSplit_forwardEnv_blank :
    (∀ entry ∈ [("ZENITH_SSHD_GREETING", "hello world"), ("HOME", "/root")],
        startswith entry.1 "ZENITH_SSHD_" → Plain entry.1 entry.2) ∧
      argvSplit (forwardEnv [("ZENITH_SSHD_GREETING", "hello world"), ("HOME", "/root")]) =
        some (forwarded [("ZENITH_SSHD_GREETING", "hello world"), ("HOME", "/root")]) :=
  ⟨by decide, argvSplit_forwardEnv _ (by decide)⟩

/-- A value with a double quote loses it: `a"b"c` comes back as `abc`. -/
theorem argvSplit_forwardEnv_quoted :
    argvSplit (forwardEnv [("ZENITH_SSHD_X", "a\"b\"c")]) = some ["ZENITH_SSHD_X=abc"] ∧
      forwarded [("ZENITH_SSHD_X", "a\"b\"c")] = ["ZENITH_SSHD_X=a\"b\"c"] := by
  constructor <;> rfl

/-- `HOSTKEYS`: the host key types to create, with their size in bits. -/
def hostkeys : List (String × Option Nat) :=
  [("dsa", none), ("rsa", some 4096), ("ecdsa", some 521), ("ed25519", none)]

/-- The root of a POSIX path as `pathlib` parses it: `//` for exactly two leading slashes, `/` for
one or more than two, and none for a relative path. -/
def pathRoot : List Char → String
  | '/' :: '/' :: '/' :: _ => "/"
  | '/' :: '/' :: _ => "//"
  | '/' :: _ => "/"
  | _ => ""

/-- The parts of a POSIX path as `pathlib` parses it: split at slashes, without empty or `.`
parts. -/
def pathParts (path : List Char) : List String :=
  ((path.splitOn '/').filter fun part => part ≠ [] ∧ part ≠ ['.']).map String.mk

/-- `str(pathlib.Path(directory) / name)` for a name without a slash. -/
def joinPath (directory name : String) : String :=
  pathRoot directory.data ++ String.join ((pathParts directory.data).map (· ++ "/")) ++ name

/-- `key_file`: the host key of a type in the run directory. -/
def keyFile (runDirectory keyType : String) : String :=
  joinPath runDirectory s!"ssh_host_{keyType}_key"

/-- `keygen_args`: `-b` is added when the key size is truthy. -/
def keygenArgs (keyFile keyType : String) (keyBits : Option Nat) : List String :=
  ["ssh-keygen", "-q", "-N", "", "-t", keyType, "-f", keyFile] ++
    match keyBits with
    | some bits => if bits = 0 then [] else ["-b", toString bits]
    | none => []

/-- One turn of the loop of `ensure_hostkeys`: the ssh-keygen commands run so far and the files
that exist, each command creating its key file. -/
def ensureHostkey (runDirectory : String) (state : List (List String) × Finset String)
    (key : String × Option Nat) : List (List String) × Finset String :=
  if keyFile runDirectory key.1 ∈ state.2 then state
  else (state.1 ++ [keygenArgs (keyFile runDirectory key.1) key.1 key.2],
    insert (keyFile runDirectory key.1) state.2)

/-- `ensure_hostkeys`: the ssh-keygen commands it runs, in order, and the files after them. -/
def ensureHostkeys (runDirectory : String) (files : Finset String) :
    List (List String) × Finset String :=
  hostkeys.foldl (ensureHostkey runDirectory) ([], files)

/-- `start`: the ssh-keygen commands of `ensure_hostkeys`, the files after them, and the command
line sshd is exec'd with. -/
def start (sshdExecutable runDirectory : String) (environ : List (String × String))
    (files : Finset String) : List (List String) × Finset String × List String :=
  ((ensureHostkeys runDirectory files).1, (ensureHostkeys runDirectory files).2,
    [sshdExecutable, "-D", "-e", "-o", s!"SetEnv={forwardEnv environ}"])

end Sshd

end Zenith
