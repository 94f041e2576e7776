import Tun01.Lib.Matcher
import Tun01.Tunnel.Local

/-!
# The detector of the magic string

`processReadData` runs two matchers over the output of the child, one for the
magic string and one for the login pattern.  `detect` is its loop with the calls
listed instead of made.
-/

namespace Tun01

/-- What `processReadData` calls. -/
inductive DetectorCall where
  | startHandshaking
  | remoteInit
  /-- `m_magic_string` is indexed past its terminator -/
  | outOfRange
  deriving DecidableEq, Repr

namespace MagicStringDetector

/-- The login part of the loop. -/
def detectLogin (d : MagicStringDetector) (c : Byte) : MagicStringDetector × List DetectorCall :=
  let count := d.m_recognized_login_count
  if 0 < d.m_remote_cmd.length ∧ count < d.m_login_pattern.length ∧
      c = d.m_login_pattern.getD count 0 then
    ({ d with m_recognized_login_count := count + 1 },
      if count + 1 ≥ d.m_login_pattern.length then [.remoteInit] else [])
  else if count < d.m_login_pattern.length then
    ({ d with m_recognized_login_count := 0 }, [])
  else
    (d, [])

/-- The loop over a chunk, with the calls it makes. -/
def detect (d : MagicStringDetector) : List Byte → MagicStringDetector × List DetectorCall
  | [] => (d, [])
  | c :: rest =>
      let count := d.m_recognized_count
      if count > d.m_magic_string.length then
        (d, [.outOfRange])
      else if c = d.m_magic_string.getD count 0 then
        let d := { d with m_recognized_count := count + 1 }
        if count + 1 ≥ d.m_magic_string.length then
          (d, [.startHandshaking])
        else
          let (d, first) := d.detectLogin c
          let (d, later) := d.detect rest
          (d, first ++ later)
      else
        let d := { d with m_recognized_count := 0 }
        let (d, first) := d.detectLogin c
        let (d, later) := d.detect rest
        (d, first ++ later)

/-- Chunks, one after the other. -/
def detectAll (d : MagicStringDetector) :
    List (List Byte) → MagicStringDetector × List DetectorCall
  | [] => (d, [])
  | chunk :: chunks =>
      let (d, first) := d.detect chunk
      let (d, later) := d.detectAll chunks
      (d, first ++ later)

/-- The members a run of the loop keeps. -/
structure Same (d d' : MagicStringDetector) : Prop where
  buffer : d'.toSockBuffer = d.toSockBuffer
  magic : d'.m_magic_string = d.m_magic_string
  pattern : d'.m_login_pattern = d.m_login_pattern
  command : d'.m_remote_cmd = d.m_remote_cmd

theorem Same.refl (d : MagicStringDetector) : Same d d := ⟨rfl, rfl, rfl, rfl⟩

theorem Same.trans {d d' d'' : MagicStringDetector} (first : Same d d') (second : Same d' d'') :
    Same d d'' :=
  ⟨second.buffer.trans first.buffer, second.magic.trans first.magic,
    second.pattern.trans first.pattern, second.command.trans first.command⟩

theorem detectLogin_same (d : MagicStringDetector) (c : Byte) : Same d (d.detectLogin c).1 := by
  unfold detectLogin
  dsimp only
  split
  · exact ⟨rfl, rfl, rfl, rfl⟩
  split
  · exact ⟨rfl, rfl, rfl, rfl⟩
  · exact .refl d

theorem detectLogin_count (d : MagicStringDetector) (c : Byte) :
    (d.detectLogin c).1.m_recognized_count = d.m_recognized_count := by
  unfold detectLogin
  dsimp only
  split
  · rfl
  split <;> rfl

theorem detectLogin_quiet (d : MagicStringDetector) (c : Byte) :
    .startHandshaking ∉ (d.detectLogin c).2 := by
  unfold detectLogin
  dsimp only
  split
  · split <;> simp
  split <;> exact List.not_mem_nil

theorem detect_same (d : MagicStringDetector) (bytes : List Byte) :
    Same d (d.detect bytes).1 := by
  induction bytes generalizing d with
  | nil => exact .refl d
  | cons c rest ih =>
      have next : ∀ count, Same d
          ((({ d with m_recognized_count := count } : MagicStringDetector).detectLogin c).1.detect
            rest).1 := by
        intro count
        have first : Same d { d with m_recognized_count := count } := ⟨rfl, rfl, rfl, rfl⟩
        exact (first.trans (detectLogin_same _ c)).trans (ih _)
      unfold detect
      dsimp only
      split
      · exact .refl d
      split
      · split
        · exact ⟨rfl, rfl, rfl, rfl⟩
        · exact next _
      · exact next _

theorem detectAll_same (d : MagicStringDetector) (chunks : List (List Byte)) :
    Same d (d.detectAll chunks).1 := by
  induction chunks generalizing d with
  | nil => exact .refl d
  | cons chunk chunks ih => exact (detect_same d chunk).trans (ih _)

end MagicStringDetector

/-! ## The calls are made -/

namespace StdioTunnelLocal

def perform (calls : Calls) (l : StdioTunnelLocal) : DetectorCall → Except Fault StdioTunnelLocal
  | .startHandshaking => l.startHandshaking calls
  | .remoteInit => l.remoteInit l.m_read_buffer.m_remote_cmd calls.command
  | .outOfRange => .error (.undefinedBehaviour "m_magic_string index out of range")

variable {l : StdioTunnelLocal} {calls : Calls}

/-- The detector plays no part in a call, but for the remote command. -/
theorem perform_setDetector (d : MagicStringDetector)
    (command : d.m_remote_cmd = l.m_read_buffer.m_remote_cmd) (call : DetectorCall) :
    perform calls (l.setDetector fun _ => d) call =
      (perform calls l call).map fun l => l.setDetector fun _ => d := by
  cases call with
  | startHandshaking =>
      unfold perform startHandshaking
      dsimp only [setDetector]
      cases ((l.m_connection_map.entries.map Prod.snd).foldl writeConnection
          ((l.toStdioTunnel.writeShort CMD_CREATE).writeShort
            (Short.ofInt l.m_connection_map.size))).send with
      | error fault => rfl
      | ok t =>
          simp only [ok_bind]
          split
          · split <;> rfl
          · rfl
  | remoteInit =>
      unfold perform
      dsimp only [setDetector]
      rw [command]
      unfold remoteInit
      cases calls.command with
      | fail errno => rfl
      | ok count =>
          dsimp only
          split <;> rfl
  | outOfRange => rfl

/-- The handshake begins with a change of state and a frame. -/
theorem startHandshaking_state {l' : StdioTunnelLocal} (result : l.startHandshaking calls = .ok l') :
    ∃ t, l' = { l with
      m_state := .HAND_SHAKE, m_write_buffer := l.m_write_buffer.clear, toStdioTunnel := t } := by
  unfold startHandshaking at result
  dsimp only at result
  obtain ⟨t, _, result⟩ := of_bind_ok result
  split at result
  · split at result
    · cases result
    · exact ⟨_, (Except.ok.inj result).symm⟩
  · exact ⟨_, (Except.ok.inj result).symm⟩

theorem remoteInit_self {l' : StdioTunnelLocal} {command : List Byte} {write : SysResult Nat}
    (result : l.remoteInit command write = .ok l') : l' = l := by
  unfold remoteInit at result
  split at result
  · cases result
  · split at result
    · exact (Except.ok.inj result).symm
    · cases result

/-- A call leaves the detector alone. -/
theorem perform_buffer {l' : StdioTunnelLocal} {call : DetectorCall}
    (result : perform calls l call = .ok l') : l'.m_read_buffer = l.m_read_buffer := by
  cases call with
  | startHandshaking =>
      obtain ⟨t, rfl⟩ := startHandshaking_state result
      rfl
  | remoteInit => rw [remoteInit_self result]
  | outOfRange => cases result

theorem performs_buffer {l' : StdioTunnelLocal} {made : List DetectorCall}
    (result : made.foldlM (perform calls) l = .ok l') : l'.m_read_buffer = l.m_read_buffer := by
  induction made generalizing l with
  | nil => rw [← Except.ok.inj result]
  | cons call rest ih =>
      rw [List.foldlM_cons] at result
      obtain ⟨l₁, first, later⟩ := of_bind_ok result
      exact (ih later).trans (perform_buffer first)

theorem performs_setDetector (d : MagicStringDetector)
    (command : d.m_remote_cmd = l.m_read_buffer.m_remote_cmd) (made : List DetectorCall) :
    made.foldlM (perform calls) (l.setDetector fun _ => d) =
      (made.foldlM (perform calls) l).map fun l => l.setDetector fun _ => d := by
  induction made generalizing l with
  | nil => rfl
  | cons call rest ih =>
      rw [List.foldlM_cons, List.foldlM_cons, perform_setDetector d command]
      cases result : perform calls l call with
      | error fault => rfl
      | ok l₁ => exact ih (by rw [perform_buffer result]; exact command)

/-- The login part of the loop makes the calls of the detector. -/
theorem detectLogin_performs (l : StdioTunnelLocal) (c : Byte) (calls : Calls) :
    l.detectLogin c calls = ((l.m_read_buffer.detectLogin c).2.foldlM (perform calls) l).map
      fun l' => l'.setDetector fun _ => (l.m_read_buffer.detectLogin c).1 := by
  unfold detectLogin MagicStringDetector.detectLogin
  dsimp only
  split
  · split
    · have made := @perform_setDetector l calls
        { l.m_read_buffer with
          m_recognized_login_count := l.m_read_buffer.m_recognized_login_count + 1 } rfl .remoteInit
      refine Eq.trans made ?_
      rw [List.foldlM_cons]
      cases perform calls l .remoteInit <;> rfl
    · rfl
  split <;> rfl

/-- `processReadData` makes the calls of the detector, in order. -/
theorem processReadData_performs (l : StdioTunnelLocal) (calls : Calls) (bytes : List Byte) :
    l.processReadData calls bytes =
      ((l.m_read_buffer.detect bytes).2.foldlM (perform calls) l).map
        fun l' => l'.setDetector fun _ => (l.m_read_buffer.detect bytes).1 := by
  induction bytes generalizing l with
  | nil => rfl
  | cons c rest ih =>
      -- the rest of the loop, after the counter of the magic string was set
      have next : ∀ d : MagicStringDetector, d.m_remote_cmd = l.m_read_buffer.m_remote_cmd →
          (do
            let l ← (l.setDetector fun _ => d).detectLogin c calls
            l.processReadData calls rest) =
          (((d.detectLogin c).2 ++ ((d.detectLogin c).1.detect rest).2).foldlM (perform calls)
            l).map fun l' => l'.setDetector fun _ => ((d.detectLogin c).1.detect rest).1 := by
        intro d command
        have login := detectLogin_performs (l.setDetector fun _ => d) c calls
        rw [performs_setDetector _ (by exact command)] at login
        rw [login, List.foldlM_append]
        change (do
          let l' ← (((d.detectLogin c).2.foldlM (perform calls) l).map _).map _
          processReadData l' calls rest) = _
        cases first : (d.detectLogin c).2.foldlM (perform calls) l with
        | error fault => rfl
        | ok l₁ =>
            change (l₁.setDetector fun _ => (d.detectLogin c).1).processReadData calls rest = _
            rw [ih]
            change (((d.detectLogin c).1.detect rest).2.foldlM (perform calls)
              (l₁.setDetector fun _ => (d.detectLogin c).1)).map _ = _
            rw [performs_setDetector]
            · change _ = (((d.detectLogin c).1.detect rest).2.foldlM (perform calls) l₁).map _
              cases ((d.detectLogin c).1.detect rest).2.foldlM (perform calls) l₁ <;> rfl
            · rw [performs_buffer first]
              exact (MagicStringDetector.detectLogin_same d c).command.trans command
      unfold processReadData MagicStringDetector.detect
      dsimp only
      split
      · rfl
      split
      · split
        · have made := @perform_setDetector l calls
            { l.m_read_buffer with
              m_recognized_count := l.m_read_buffer.m_recognized_count + 1 } rfl .startHandshaking
          refine Eq.trans made ?_
          rw [List.foldlM_cons]
          cases perform calls l .startHandshaking <;> rfl
        · exact next _ rfl
      · exact next _ rfl

end StdioTunnelLocal

/-! ## What the matchers recognise -/

namespace MagicStringDetector

open Matcher (scan)

variable {d : MagicStringDetector}

/-- The terminator plays no part before the end of a string. -/
theorem getD_iff {string : List Byte} {count : Nat} (inside : count < string.length) (c : Byte) :
    c = string.getD count 0 ↔ string[count]? = some c := by
  rw [List.getD_eq_getElem?_getD, List.getElem?_eq_getElem inside, Option.getD_some]
  exact ⟨fun same => congrArg some same.symm, fun same => (Option.some.inj same).symm⟩

/-- The counter of the magic string follows its matcher up to the first call. -/
theorem detect_magic (below : d.m_recognized_count < d.m_magic_string.length)
    (bytes : List Byte) :
    (bytes.foldl (scan d.m_magic_string) (some d.m_recognized_count) = none ∧
        .startHandshaking ∈ (d.detect bytes).2) ∨
      ∃ count, bytes.foldl (scan d.m_magic_string) (some d.m_recognized_count) = some count ∧
        count < d.m_magic_string.length ∧ (d.detect bytes).1.m_recognized_count = count ∧
        .startHandshaking ∉ (d.detect bytes).2 := by
  induction bytes generalizing d with
  | nil => exact Or.inr ⟨_, rfl, below, rfl, List.not_mem_nil⟩
  | cons c rest ih =>
      -- the loop goes on with the counter `count`
      have next : ∀ count, count < d.m_magic_string.length →
          let d₁ := (({ d with m_recognized_count := count } : MagicStringDetector).detectLogin c)
          (rest.foldl (scan d.m_magic_string) (some count) = none ∧
              .startHandshaking ∈ d₁.2 ++ (d₁.1.detect rest).2) ∨
            ∃ last, rest.foldl (scan d.m_magic_string) (some count) = some last ∧
              last < d.m_magic_string.length ∧ (d₁.1.detect rest).1.m_recognized_count = last ∧
              .startHandshaking ∉ d₁.2 ++ (d₁.1.detect rest).2 := by
        intro count inside d₁
        have magic : d₁.1.m_magic_string = d.m_magic_string := (detectLogin_same _ c).magic
        have counted : d₁.1.m_recognized_count = count := detectLogin_count _ c
        have quiet : .startHandshaking ∉ d₁.2 := detectLogin_quiet _ c
        rcases ih (d := d₁.1) (by rw [magic, counted]; exact inside) with
          ⟨complete, called⟩ | ⟨last, read, small, after, silent⟩
        · rw [magic, counted] at complete
          exact Or.inl ⟨complete, List.mem_append_right _ called⟩
        · rw [magic, counted] at read
          rw [magic] at small
          refine Or.inr ⟨last, read, small, after, fun called => ?_⟩
          rcases List.mem_append.mp called with first | later
          · exact quiet first
          · exact silent later
      have same := getD_iff below c
      unfold detect
      dsimp only
      rw [if_neg (by omega), List.foldl_cons]
      by_cases here : c = d.m_magic_string.getD d.m_recognized_count 0
      · rw [if_pos here, Matcher.scan_next (same.mp here)]
        by_cases more : d.m_recognized_count + 1 < d.m_magic_string.length
        · rw [if_pos more, if_neg (by omega)]
          exact next _ more
        · rw [if_neg more, if_pos (by omega)]
          exact Or.inl ⟨Matcher.foldl_none rest, List.mem_singleton.mpr rfl⟩
      · rw [if_neg here, Matcher.scan_mismatch fun no => here (same.mpr no)]
        exact next 0 (by omega)

/-- Chunks cut the stream anywhere. -/
theorem detectAll_magic (below : d.m_recognized_count < d.m_magic_string.length)
    (chunks : List (List Byte)) :
    (chunks.flatten.foldl (scan d.m_magic_string) (some d.m_recognized_count) = none ∧
        .startHandshaking ∈ (d.detectAll chunks).2) ∨
      ∃ count, chunks.flatten.foldl (scan d.m_magic_string) (some d.m_recognized_count) =
          some count ∧
        count < d.m_magic_string.length ∧ (d.detectAll chunks).1.m_recognized_count = count ∧
        .startHandshaking ∉ (d.detectAll chunks).2 := by
  induction chunks generalizing d with
  | nil => exact Or.inr ⟨_, rfl, below, rfl, List.not_mem_nil⟩
  | cons chunk chunks ih =>
      have magic := (detect_same d chunk).magic
      unfold detectAll
      dsimp only
      rw [List.flatten_cons, List.foldl_append]
      rcases detect_magic below chunk with ⟨complete, called⟩ | ⟨count, read, inside, after, silent⟩
      · rw [complete]
        exact Or.inl ⟨Matcher.foldl_none _, List.mem_append_left _ called⟩
      · rw [read]
        have later := ih (d := (d.detect chunk).1) (by rw [magic, after]; exact inside)
        rw [magic, after] at later
        rcases later with ⟨complete, called⟩ | ⟨last, read', inside', after', silent'⟩
        · exact Or.inl ⟨complete, List.mem_append_right _ called⟩
        · refine Or.inr ⟨last, read', inside', after', fun called => ?_⟩
          rcases List.mem_append.mp called with first | second
          · exact silent first
          · exact silent' second

/-- `startHandshaking` has been called exactly when the matcher has completed. -/
theorem called_iff (start : d.m_recognized_count = 0) (nonempty : d.m_magic_string ≠ [])
    (chunks : List (List Byte)) :
    .startHandshaking ∈ (d.detectAll chunks).2 ↔
      Matcher.state d.m_magic_string chunks.flatten = none := by
  have below : d.m_recognized_count < d.m_magic_string.length := by
    rw [start]
    exact List.length_pos_iff.mpr nonempty
  unfold Matcher.state
  rcases detectAll_magic below chunks with ⟨complete, called⟩ | ⟨count, read, _, _, silent⟩
  · rw [start] at complete
    exact iff_of_true called complete
  · rw [start] at read
    rw [read]
    exact iff_of_false silent fun no => by cases no

/-- The detector of `StdioTunnelLocal`, with the options `-p` and `-c`. -/
def configured (login_pattern remote_cmd : List Byte) : MagicStringDetector :=
  { StdioTunnelLocal.fresh.m_read_buffer with
    m_login_pattern := login_pattern, m_remote_cmd := remote_cmd }

/--
However a stream is cut into chunks, `startHandshaking` has been called by the
end of any first part of it exactly when that part contains the magic string,
if and only if the first magic string of the stream comes after a sequence of
abandoned attempts.
-/
theorem detects_magic (login_pattern remote_cmd text : List Byte) :
    (∀ chunks : List (List Byte), chunks.flatten <+: text →
      (.startHandshaking ∈ ((configured login_pattern remote_cmd).detectAll chunks).2 ↔
        magicString <:+: chunks.flatten)) ↔
      Matcher.Clean magicString text := by
  have nonempty : magicString ≠ [] := by decide
  rw [← Matcher.exact_iff nonempty]
  constructor
  · intro exact' first read
    have called := called_iff (d := configured login_pattern remote_cmd) rfl nonempty [first]
    have detected := exact' [first] (by rw [List.flatten_singleton]; exact read)
    rw [List.flatten_singleton] at called detected
    exact called.symm.trans detected
  · intro complete chunks read
    exact (called_iff (d := configured login_pattern remote_cmd) rfl nonempty chunks).trans
      (complete _ read)

/-- After an `S` the magic string is missed. -/
theorem misses_magic : ¬ ∀ (login_pattern remote_cmd : List Byte) (chunks : List (List Byte)),
    .startHandshaking ∈ ((configured login_pattern remote_cmd).detectAll chunks).2 ↔
      magicString <:+: chunks.flatten := by
  intro always
  have occurs : magicString <:+: [text "S" ++ magicString].flatten :=
    ⟨text "S", [], by rw [List.flatten_singleton, List.append_nil]⟩
  have called := (always [] [] [text "S" ++ magicString]).mpr occurs
  exact absurd called (by decide)

/-! ## The login pattern -/

/-- The counter of the login pattern; it stays at the end once `remoteInit` was called. -/
def login (d : MagicStringDetector) : Option Nat :=
  if d.m_recognized_login_count < d.m_login_pattern.length then some d.m_recognized_login_count
  else none

/-- The calls of `remoteInit` while a matcher goes from one state to another. -/
def completions (before after : Option Nat) : Nat :=
  if before ≠ none ∧ after = none then 1 else 0

theorem completions_trans {first second third : Option Nat}
    (stays : second = none → third = none) :
    completions first second + completions second third = completions first third ∨
      first = none ∧ second ≠ none := by
  unfold completions
  cases first with
  | none =>
      cases second with
      | none => exact Or.inl rfl
      | some n => exact Or.inr ⟨rfl, fun no => by cases no⟩
  | some m =>
      cases second with
      | none =>
          rw [stays rfl]
          exact Or.inl rfl
      | some n =>
          left
          cases third <;> rfl

/-- One byte of the login pattern. -/
theorem detectLogin_scan (command : d.m_remote_cmd ≠ []) (c : Byte) :
    (d.detectLogin c).1.login = scan d.m_login_pattern d.login c ∧
      (d.detectLogin c).2.count .remoteInit =
        completions d.login (scan d.m_login_pattern d.login c) := by
  have positive := List.length_pos_iff.mpr command
  unfold detectLogin
  dsimp only
  by_cases open' : d.m_recognized_login_count < d.m_login_pattern.length
  · have same := getD_iff open' c
    have now : d.login = some d.m_recognized_login_count := if_pos open'
    rw [now]
    by_cases here : c = d.m_login_pattern.getD d.m_recognized_login_count 0
    · rw [if_pos ⟨positive, open', here⟩, Matcher.scan_next (same.mp here)]
      by_cases more : d.m_recognized_login_count + 1 < d.m_login_pattern.length
      · rw [if_pos more, if_neg (by omega)]
        exact ⟨if_pos more, rfl⟩
      · rw [if_neg more, if_pos (by omega)]
        exact ⟨if_neg more, rfl⟩
    · rw [if_neg fun both => here both.2.2, if_pos open',
        Matcher.scan_mismatch fun no => here (same.mpr no)]
      exact ⟨if_pos (show 0 < d.m_login_pattern.length by omega), rfl⟩
  · have now : d.login = none := if_neg open'
    rw [if_neg fun both => open' both.2.1, if_neg open', now]
    exact ⟨rfl, rfl⟩

theorem scan_stays {text : List Byte} {pattern : List Byte} {before : Option Nat}
    (complete : before = none) : text.foldl (scan pattern) before = none := by
  rw [complete]
  exact Matcher.foldl_none text

/-- A latch that has closed stays closed, so the calls of two parts add up. -/
theorem completions_append {first second third : Option Nat} (latched : first = none → second = none)
    (stays : second = none → third = none) :
    completions first second + completions second third = completions first third := by
  rcases @completions_trans first _ _ stays with same | ⟨closed, reopened⟩
  · exact same
  · exact absurd (latched closed) reopened

/-- Up to the first call of `startHandshaking` the login pattern follows its matcher. -/
theorem detect_login (command : d.m_remote_cmd ≠ [])
    (below : d.m_recognized_count < d.m_magic_string.length) (bytes : List Byte)
    (silent : .startHandshaking ∉ (d.detect bytes).2) :
    (d.detect bytes).1.login = bytes.foldl (scan d.m_login_pattern) d.login ∧
      (d.detect bytes).2.count .remoteInit =
        completions d.login (bytes.foldl (scan d.m_login_pattern) d.login) := by
  induction bytes generalizing d with
  | nil =>
      refine ⟨rfl, ?_⟩
      unfold completions
      rw [List.foldl_nil, if_neg fun both => both.1 both.2]
      rfl
  | cons c rest ih =>
      have next : ∀ count, count < d.m_magic_string.length →
          let d₁ := (({ d with m_recognized_count := count } : MagicStringDetector).detectLogin c)
          .startHandshaking ∉ d₁.2 ++ (d₁.1.detect rest).2 →
          (d₁.1.detect rest).1.login = (c :: rest).foldl (scan d.m_login_pattern) d.login ∧
            (d₁.2 ++ (d₁.1.detect rest).2).count .remoteInit =
              completions d.login ((c :: rest).foldl (scan d.m_login_pattern) d.login) := by
        intro count inside d₁ quiet
        have keeps := detectLogin_same ({ d with m_recognized_count := count }) c
        have counted : d₁.1.m_recognized_count = count := detectLogin_count _ c
        have magic : d₁.1.m_magic_string = d.m_magic_string := keeps.magic
        have pattern : d₁.1.m_login_pattern = d.m_login_pattern := keeps.pattern
        obtain ⟨read, made⟩ := detectLogin_scan (d := { d with m_recognized_count := count })
          command c
        change d₁.1.login = scan d.m_login_pattern d.login c at read
        change d₁.2.count .remoteInit = completions d.login (scan d.m_login_pattern d.login c) at made
        obtain ⟨after, calls⟩ := ih (d := d₁.1) (by rw [keeps.command]; exact command)
          (by rw [magic, counted]; exact inside)
          fun called => quiet (List.mem_append_right _ called)
        rw [pattern, read] at after calls
        refine ⟨after, ?_⟩
        rw [List.count_append, made, calls, List.foldl_cons]
        exact completions_append (fun closed => by rw [closed]; rfl) scan_stays
      unfold detect at silent ⊢
      dsimp only at silent ⊢
      rw [if_neg (by omega)] at silent ⊢
      split
      · rename_i here
        rw [if_pos here] at silent
        split
        · rename_i complete
          rw [if_pos complete] at silent
          exact absurd (List.mem_singleton.mpr rfl) silent
        · rename_i more
          rw [if_neg more] at silent
          exact next _ (by omega) silent
      · rename_i here
        rw [if_neg here] at silent
        exact next 0 (by omega) silent

theorem detectAll_login (command : d.m_remote_cmd ≠ [])
    (below : d.m_recognized_count < d.m_magic_string.length) (chunks : List (List Byte))
    (silent : .startHandshaking ∉ (d.detectAll chunks).2) :
    (d.detectAll chunks).1.login = chunks.flatten.foldl (scan d.m_login_pattern) d.login ∧
      (d.detectAll chunks).2.count .remoteInit =
        completions d.login (chunks.flatten.foldl (scan d.m_login_pattern) d.login) := by
  induction chunks generalizing d with
  | nil =>
      refine ⟨rfl, ?_⟩
      unfold completions
      rw [List.flatten_nil, List.foldl_nil, if_neg fun both => both.1 both.2]
      rfl
  | cons chunk chunks ih =>
      have keeps := detect_same d chunk
      unfold detectAll at silent ⊢
      dsimp only at silent ⊢
      have first : .startHandshaking ∉ (d.detect chunk).2 := fun called =>
        silent (List.mem_append_left _ called)
      obtain ⟨read, made⟩ := detect_login command below chunk first
      have inside : (d.detect chunk).1.m_recognized_count < d.m_magic_string.length := by
        rcases detect_magic below chunk with ⟨_, called⟩ | ⟨count, _, small, after, _⟩
        · exact absurd called first
        · rw [after]
          exact small
      obtain ⟨after, calls⟩ := ih (d := (d.detect chunk).1) (by rw [keeps.command]; exact command)
        (by rw [keeps.magic]; exact inside)
        fun called => silent (List.mem_append_right _ called)
      rw [keeps.pattern, read] at after calls
      rw [List.flatten_cons, List.foldl_append]
      refine ⟨after, ?_⟩
      rw [List.count_append, made, calls]
      exact completions_append scan_stays scan_stays

/--
While the magic string has not completed, `remoteInit` has been called once when
the first part of the stream read so far contains the login pattern and not at
all otherwise, however it is cut into chunks, if and only if the first login
pattern of the stream comes after a sequence of abandoned attempts.
-/
theorem detects_login {login_pattern remote_cmd text : List Byte} (pattern : login_pattern ≠ [])
    (command : remote_cmd ≠ [])
    (silent : ∀ chunks : List (List Byte), chunks.flatten <+: text →
      .startHandshaking ∉ ((configured login_pattern remote_cmd).detectAll chunks).2) :
    (∀ chunks : List (List Byte), chunks.flatten <+: text →
      ((configured login_pattern remote_cmd).detectAll chunks).2.count .remoteInit =
        if login_pattern <:+: chunks.flatten then 1 else 0) ↔
      Matcher.Clean login_pattern text := by
  have nonempty := List.length_pos_iff.mpr pattern
  have start : (configured login_pattern remote_cmd).login = some 0 := if_pos nonempty
  have calls : ∀ chunks : List (List Byte), chunks.flatten <+: text →
      ((configured login_pattern remote_cmd).detectAll chunks).2.count .remoteInit =
        if Matcher.state login_pattern chunks.flatten = none then 1 else 0 := by
    intro chunks read
    have made := (detectAll_login (d := configured login_pattern remote_cmd) command
      (by decide : (0 : Nat) < magicString.length) chunks (silent chunks read)).2
    rw [made, start]
    unfold completions
    rw [if_congr (and_iff_right fun no => by cases no) rfl rfl]
    rfl
  rw [← Matcher.exact_iff pattern]
  constructor
  · intro exact' first read
    have flat : [first].flatten = first := List.flatten_singleton
    have made := calls [first] (by rw [flat]; exact read)
    rw [exact' [first] (by rw [flat]; exact read), flat] at made
    by_cases occurs : login_pattern <:+: first
    · rw [if_pos occurs] at made
      refine iff_of_true ?_ occurs
      by_contra other
      rw [if_neg other] at made
      cases made
    · rw [if_neg occurs] at made
      refine iff_of_false (fun complete => ?_) occurs
      rw [if_pos complete] at made
      cases made
  · intro complete chunks read
    rw [calls chunks read, if_congr (complete _ read) rfl rfl]

/-- A pattern that overlaps itself, after a part of it and cut in two. -/
theorem detects_login_prompt :
    ((configured (text "abab") (text "tun01")).detectAll
      [text "xabxa", text "bab>"]).2.count .remoteInit = 1 := by
  have whole : [text "xabxa", text "bab>"].flatten = text "xabxabab>" := by decide
  have silent : ∀ chunks : List (List Byte), chunks.flatten <+: text "xabxabab>" →
      .startHandshaking ∉ ((configured (text "abab") (text "tun01")).detectAll chunks).2 := by
    intro chunks read called
    have nonempty : magicString ≠ [] := by decide
    have complete := (called_iff (d := configured (text "abab") (text "tun01")) rfl nonempty
      chunks).mp called
    have long := ((Matcher.state_none_iff nonempty).mp complete).occurs.length_le
    have short := read.length_le
    have nine : (text "xabxabab>").length = 9 := by decide
    have many : magicString.length = 31 := by decide
    omega
  have clean : Matcher.Clean (text "abab") (text "xabxabab>") := by
    intro before after split _
    have here : text "abab" <+: (text "xabxabab>").drop before.length :=
      ⟨after, by rw [split, List.drop_left]⟩
    have start : before = (text "xabxabab>").take before.length := by rw [split, List.take_left]
    have inside : before.length ≤ 5 := by
      have length := congrArg List.length split
      rw [List.length_append, List.length_append, show (text "xabxabab>").length = 9 by decide,
        show (text "abab").length = 4 by decide] at length
      omega
    generalize before.length = place at here start inside
    rw [start]
    match place, inside with
    | 0, _ | 1, _ | 2, _ | 3, _ | 5, _ => exact absurd here (by decide)
    | 4, _ =>
        -- the attempts end at the two `x`
        exact @Matcher.Restarts.attempt _ (text "abab") 0 120 _ (by decide) (by decide)
          (@Matcher.Restarts.attempt _ (text "abab") 2 120 _ (by decide) (by decide) .nil)
  have counted := (detects_login (by decide) (by decide) silent).mpr clean
    [text "xabxa", text "bab>"] (by rw [whole])
  rwa [if_pos (by decide)] at counted

/-- After one `a` more the pattern `aab` is missed. -/
theorem misses_login : ¬ ∀ (login_pattern remote_cmd : List Byte) (chunks : List (List Byte)),
    login_pattern ≠ [] → remote_cmd ≠ [] →
    .startHandshaking ∉ ((configured login_pattern remote_cmd).detectAll chunks).2 →
    ((configured login_pattern remote_cmd).detectAll chunks).2.count .remoteInit =
      if login_pattern <:+: chunks.flatten then 1 else 0 := by
  intro always
  have occurs : text "aab" <:+: [text "aaab"].flatten := ⟨text "a", [], by decide⟩
  have counted := always (text "aab") (text "tun01") [text "aaab"] (by decide) (by decide)
    (by decide)
  rw [if_pos occurs] at counted
  exact absurd counted (by decide)

/-! ## After the magic string -/

/-- The chunk that completes the magic string is not read to its end. -/
theorem detect_complete (below : d.m_recognized_count < d.m_magic_string.length)
    {bytes : List Byte} (called : .startHandshaking ∈ (d.detect bytes).2) :
    (d.detect bytes).2.count .startHandshaking = 1 ∧
      (d.detect bytes).1.m_recognized_count = d.m_magic_string.length := by
  induction bytes generalizing d with
  | nil => exact absurd called List.not_mem_nil
  | cons c rest ih =>
      have next : ∀ count, count < d.m_magic_string.length →
          let d₁ := (({ d with m_recognized_count := count } : MagicStringDetector).detectLogin c)
          .startHandshaking ∈ d₁.2 ++ (d₁.1.detect rest).2 →
          (d₁.2 ++ (d₁.1.detect rest).2).count .startHandshaking = 1 ∧
            (d₁.1.detect rest).1.m_recognized_count = d.m_magic_string.length := by
        intro count inside d₁ member
        have quiet : .startHandshaking ∉ d₁.2 := detectLogin_quiet _ c
        have magic : d₁.1.m_magic_string = d.m_magic_string := (detectLogin_same _ c).magic
        have counted : d₁.1.m_recognized_count = count := detectLogin_count _ c
        have later := (List.mem_append.mp member).resolve_left quiet
        obtain ⟨once, after⟩ := ih (d := d₁.1) (by rw [magic, counted]; exact inside) later
        rw [List.count_append, List.count_eq_zero.mpr quiet, Nat.zero_add]
        exact ⟨once, after.trans (congrArg List.length magic)⟩
      unfold detect at called ⊢
      dsimp only at called ⊢
      rw [if_neg (by omega)] at called ⊢
      split
      · rename_i here
        rw [if_pos here] at called
        split
        · exact ⟨rfl, show d.m_recognized_count + 1 = d.m_magic_string.length by omega⟩
        · rename_i more
          rw [if_neg more] at called
          exact next _ (by omega) called
      · rename_i here
        rw [if_neg here] at called
        exact next 0 (by omega) called

/--
The text read after the magic string starts no second handshake: its first byte
is not the terminator, and the bytes after that do not complete the magic
string.
-/
def Harmless (pattern text : List Byte) : Prop :=
  text = [] ∨ ∃ c rest, text = c :: rest ∧ c ≠ 0 ∧ Matcher.state pattern rest ≠ none

/-- After the magic string the counter is at its terminator. -/
theorem detectAll_after (nonempty : d.m_magic_string ≠ [])
    (complete : d.m_recognized_count = d.m_magic_string.length) (chunks : List (List Byte)) :
    .startHandshaking ∉ (d.detectAll chunks).2 ↔ Harmless d.m_magic_string chunks.flatten := by
  have positive := List.length_pos_iff.mpr nonempty
  induction chunks with
  | nil => exact iff_of_true List.not_mem_nil (Or.inl rfl)
  | cons chunk chunks ih =>
      cases chunk with
      | nil => exact ih
      | cons c bytes =>
          have terminator : d.m_magic_string.getD d.m_recognized_count 0 = 0 := by
            rw [complete]
            exact List.getD_eq_default _ _ (Nat.le_refl _)
          by_cases zero : c = 0
          · have called : (d.detect (c :: bytes)).2 = [.startHandshaking] := by
              unfold detect
              dsimp only
              rw [if_neg (by omega), terminator, if_pos zero, if_pos (by omega)]
            refine iff_of_false (fun silent => silent ?_) ?_
            · unfold detectAll
              dsimp only
              rw [called]
              exact List.mem_append_left _ (List.mem_singleton.mpr rfl)
            · rintro (no | ⟨c', rest, same, nonzero, _⟩)
              · cases no
              · exact nonzero ((List.cons.inj same).1.symm.trans zero)
          · let d₁ := (({ d with m_recognized_count := 0 } : MagicStringDetector).detectLogin c)
            have magic : d₁.1.m_magic_string = d.m_magic_string := (detectLogin_same _ c).magic
            have counted : d₁.1.m_recognized_count = 0 := detectLogin_count _ c
            have quiet : .startHandshaking ∉ d₁.2 := detectLogin_quiet _ c
            have read : d.detect (c :: bytes) =
                ((d₁.1.detect bytes).1, d₁.2 ++ (d₁.1.detect bytes).2) := by
              rw [detect]
              dsimp only
              rw [if_neg (by omega), terminator, if_neg zero]
            have whole : (d.detectAll ((c :: bytes) :: chunks)).2 =
                d₁.2 ++ (d₁.1.detectAll (bytes :: chunks)).2 := by
              unfold detectAll
              dsimp only
              rw [read]
              exact List.append_assoc _ _ _
            have called := called_iff counted (by rw [magic]; exact nonempty) (bytes :: chunks)
            rw [magic] at called
            rw [whole, List.mem_append, or_iff_right quiet, called]
            refine ⟨fun silent => Or.inr ⟨c, _, rfl, zero, silent⟩, ?_⟩
            rintro (no | ⟨c', rest, same, _, silent⟩)
            · cases no
            · have tail : (bytes :: chunks).flatten = rest := (List.cons.inj same).2
              rw [tail]
              exact silent

/-- What is read after the magic string, in the same call of `readData`, is harmless. -/
def Once (d : MagicStringDetector) (chunks : List (List Byte)) : Prop :=
  ∀ text, Matcher.rest d.m_magic_string (some d.m_recognized_count) chunks = some text →
    Harmless d.m_magic_string text

/-- The chunks of one call of `readData` start at most one handshake. -/
theorem detectAll_once (below : d.m_recognized_count < d.m_magic_string.length)
    (chunks : List (List Byte)) :
    (d.detectAll chunks).2.count .startHandshaking ≤ 1 ↔ d.Once chunks := by
  have nonempty : d.m_magic_string ≠ [] := List.length_pos_iff.mp (by omega)
  induction chunks generalizing d with
  | nil => exact iff_of_true (Nat.zero_le _) fun _ no => by cases no
  | cons chunk chunks ih =>
      have magic := (detect_same d chunk).magic
      unfold detectAll Once Matcher.rest
      dsimp only
      rw [List.count_append]
      rcases detect_magic below chunk with ⟨complete, called⟩ | ⟨count, read, inside, after, silent⟩
      · obtain ⟨once, ended⟩ := detect_complete below called
        have later := detectAll_after (d := (d.detect chunk).1) (by rw [magic]; exact nonempty)
          (by rw [ended, magic]) chunks
        rw [magic, ← List.count_eq_zero] at later
        rw [once, complete, if_pos rfl]
        constructor
        · intro few text same
          rw [← Option.some.inj same]
          exact later.mp (by omega)
        · intro harmless
          have none := later.mpr (harmless _ rfl)
          omega
      · have more := ih (d := (d.detect chunk).1) (by rw [magic, after]; exact inside)
          (by rw [magic]; exact nonempty)
        unfold Once at more
        rw [magic, after] at more
        rw [List.count_eq_zero.mpr silent, Nat.zero_add, read, if_neg fun no => by cases no]
        exact more

end MagicStringDetector

end Tun01
