import Tun01.Tunnel.Remote
import Tun01.Tunnel.Start

/-!
# The two scans of the arguments

`CreateTunnel` looks for the side to create before `configure` reads the
options.  Both walk over the same arguments; this module states how each of
them takes an argument, and that they agree.
-/

namespace Tun01

/-! ## The scan of `configure` -/

namespace StdioTunnelLocal

/-- What the loop of `configure` makes of the arguments, apart from its effects. -/
structure Scanned where
  words : List Word
  options : List (Byte × List Byte)
  command : Option (List (List Byte))
  deriving DecidableEq, Repr

def Scanned.after (s : Scanned) (words : List Word) (option : Byte × List Byte) : Scanned :=
  ⟨words ++ s.words, option :: s.options, s.command⟩

/-- The arguments as the loop of `configure` takes them. -/
def scan : List (List Byte) → Scanned
  | [] => ⟨[], [], none⟩
  | (45 :: 45 :: _) :: rest => ⟨[.terminator], [], some rest⟩
  | (45 :: option :: attached) :: [] => ⟨[.option], [(option, attached)], none⟩
  | (45 :: option :: attached) :: next :: rest =>
      if attached = [] ∧ takesValue option = true then
        (scan rest).after [.option, .value] (option, next)
      else
        (scan (next :: rest)).after [.option] (option, attached)
  | arg :: rest => ⟨[], [], some (arg :: rest)⟩

theorem scan_single {option : Byte} (other : option ≠ 45) (attached : List Byte) :
    scan [45 :: option :: attached] = ⟨[.option], [(option, attached)], none⟩ :=
  scan.eq_3 option attached other

theorem scan_next {option : Byte} (other : option ≠ 45) (attached next : List Byte)
    (rest : List (List Byte)) : scan ((45 :: option :: attached) :: next :: rest) =
      if attached = [] ∧ takesValue option = true then
        (scan rest).after [.option, .value] (option, next)
      else
        (scan (next :: rest)).after [.option] (option, attached) :=
  scan.eq_4 option attached next rest other

/-- The options one after the other. -/
def applyOptions (l : StdioTunnelLocal) (socks5_spec_count : Nat)
    (bindStatus : ConnectionSpec → Int) :
    List (Byte × List Byte) → Except Fault (StdioTunnelLocal × Nat)
  | [] => .ok (l, socks5_spec_count)
  | (option, value) :: options => do
      let (l, socks5_spec_count) ← l.applyOption socks5_spec_count bindStatus option value
      l.applyOptions socks5_spec_count bindStatus options

theorem applyOptions_cons (l : StdioTunnelLocal) (count : Nat)
    (bindStatus : ConnectionSpec → Int) (option : Byte × List Byte)
    (options : List (Byte × List Byte)) :
    l.applyOptions count bindStatus (option :: options) =
      (l.applyOption count bindStatus option.1 option.2).bind fun result =>
        result.1.applyOptions result.2 bindStatus options := rfl

/-- `m_command` is set when the scan reached the command. -/
def commanded (l : StdioTunnelLocal) : Option (List (List Byte)) → StdioTunnelLocal
  | none => l
  | some command => { l with m_command := some command }

variable {l l' : StdioTunnelLocal} {bindStatus : ConnectionSpec → Int} {count : Nat}
  {args : List (List Byte)}

/-- An argument that was taken as these words, before what the later ones make of the members. -/
theorem map_took (applied : Except Fault (StdioTunnelLocal × Nat)) (words : List Word)
    (s : Scanned) :
    (applied.map fun result => (result.1.commanded s.command, result.2, s.words)).map (took words) =
      applied.map fun result => (result.1.commanded s.command, result.2, words ++ s.words) := by
  cases applied <;> rfl

/-- The loop applies the options of the scan, keeps its command and takes the words it takes. -/
theorem configureLoop_scan (l : StdioTunnelLocal) (count : Nat)
    (bindStatus : ConnectionSpec → Int) (args : List (List Byte)) :
    l.configureLoop count bindStatus args =
      (l.applyOptions count bindStatus (scan args).options).map fun result =>
        (result.1.commanded (scan args).command, result.2, (scan args).words) := by
  induction l, count, args using configureLoop.induct with
  | case1 l count => rfl
  | case2 l count attached rest => rfl
  | case3 l count option attached other ih =>
      rw [configureLoop.eq_3 _ _ _ _ _ other, scan.eq_3 _ _ other]
      cases first : l.applyOption count bindStatus option attached with
      | error fault =>
          unfold applyOptions
          rw [first]
          rfl
      | ok result =>
          unfold applyOptions
          rw [first, ok_bind, ok_bind]
          exact congrArg (Except.map (took [.option])) (ih result.1 result.2)
  | case4 l count option attached next rest other separate ih =>
      rw [configureLoop.eq_4 _ _ _ _ _ _ _ other, if_pos separate, scan.eq_4 _ _ _ _ other,
        if_pos separate]
      unfold Scanned.after applyOptions
      dsimp only
      cases first : l.applyOption count bindStatus option next with
      | error fault => rfl
      | ok result =>
          rw [ok_bind]
          refine (congrArg _ (ih result.1 result.2)).trans ?_
          exact map_took _ _ _
  | case5 l count option attached next rest other joined ih =>
      rw [configureLoop.eq_4 _ _ _ _ _ _ _ other, if_neg joined, scan.eq_4 _ _ _ _ other,
        if_neg joined]
      unfold Scanned.after applyOptions
      dsimp only
      cases first : l.applyOption count bindStatus option attached with
      | error fault => rfl
      | ok result =>
          rw [ok_bind]
          refine (congrArg _ (ih result.1 result.2)).trans ?_
          exact map_took _ _ _
  | case6 l count arg rest noDashes noOption noValue =>
      rw [configureLoop.eq_5 _ _ _ _ _ noDashes noOption noValue,
        scan.eq_5 _ _ noDashes noOption noValue]
      rfl

/-- No option sets `m_command`. -/
theorem applyOption_command {count' : Nat} {option : Byte} {value : List Byte}
    (result : l.applyOption count bindStatus option value = .ok (l', count')) :
    l'.m_command = l.m_command := by
  cases applyOption_applies result with
  | listen _ => rfl
  | connect _ => rfl
  | plain _ _ =>
      unfold plainOption
      repeat' split
      all_goals rfl

theorem applyOptions_command {count' : Nat} {options : List (Byte × List Byte)}
    (result : l.applyOptions count bindStatus options = .ok (l', count')) :
    l'.m_command = l.m_command := by
  induction options generalizing l count with
  | nil =>
      obtain ⟨rfl, _⟩ := Prod.mk.inj (Except.ok.inj result)
      rfl
  | cons option options ih =>
      unfold applyOptions at result
      obtain ⟨⟨l₁, count₁⟩, first, later⟩ := of_bind_ok result
      exact (ih later).trans (applyOption_command first)

/-- The checks at the end of `configure`. -/
def finish (l : StdioTunnelLocal) (socks5_spec_count : Nat) : Except Fault StdioTunnelLocal := do
  if l.m_connection_specs.length = 0 then
    throw (.exception "No connections defined")
  if l.m_command = none ∨ l.m_command = some [] then
    throw (.exception "No connection command defined")
  if socks5_spec_count > 1 then
    throw (.exception "at most one socks 5 connection spec")
  return l

/-- `configure` applies the options of its scan and then makes its checks. -/
theorem configure_scan (l : StdioTunnelLocal) (bindStatus : ConnectionSpec → Int)
    (args : List (List Byte)) : l.configure bindStatus args = (do
      let (l, socks5_spec_count) ← l.applyOptions 0 bindStatus (scan args).options
      (l.commanded (scan args).command).finish socks5_spec_count) := by
  unfold configure
  rw [configureLoop_scan]
  cases l.applyOptions 0 bindStatus (scan args).options with
  | error fault => rfl
  | ok result => rfl

theorem finish_same (result : l.finish count = .ok l') :
    l' = l ∧ l.m_command ≠ none ∧ l.m_command ≠ some [] := by
  unfold finish at result
  simp only [bind, Except.bind, throw, throwThe, MonadExceptOf.throw, pure, Except.pure] at result
  split at result
  · cases result
  · split at result
    · cases result
    · rename_i set
      split at result
      · cases result
      · exact ⟨(Except.ok.inj result).symm, not_or.mp set⟩

/-- `configure` returns what its loop has made of the members, with the words of the scan. -/
theorem configure_loop (result : l.configure bindStatus args = .ok l') :
    ∃ count, l.configureLoop 0 bindStatus args = .ok (l', count, (scan args).words) := by
  rw [configure_scan] at result
  obtain ⟨⟨l₁, count⟩, applied, last⟩ := of_bind_ok result
  obtain ⟨rfl, _⟩ := finish_same last
  refine ⟨count, ?_⟩
  rw [configureLoop_scan, applied]
  rfl

/-- What `configure` leaves in `m_command` is where its scan stopped. -/
theorem configure_command (result : fresh.configure bindStatus args = .ok l) :
    l.m_command = (scan args).command ∧ l.m_command ≠ none := by
  rw [configure_scan] at result
  obtain ⟨⟨l₁, count⟩, applied, last⟩ := of_bind_ok result
  obtain ⟨rfl, some', _⟩ := finish_same last
  have unset : l₁.m_command = none := applyOptions_command applied
  refine ⟨?_, some'⟩
  cases (scan args).command with
  | none => exact unset
  | some command => rfl

end StdioTunnelLocal

/-! ## The scan of `CreateTunnel` -/

namespace StdioTunnel

/--
What `CreateTunnel` learns from the arguments: its variables `local` and
`version`, how it took each argument, and the arguments it did not reach.
-/
structure CommandLine where
  isLocal : Bool
  version : Bool
  words : List Word
  rest : List (List Byte)
  deriving DecidableEq, Repr

def CommandLine.after (line : CommandLine) (words : List Word) : CommandLine :=
  { line with words := words ++ line.words }

/-- The loop of `CreateTunnel` over `argv[1]` and its successors. -/
def scanArguments (isLocal version : Bool) : List (List Byte) → Except Fault CommandLine
  | [] => .ok ⟨isLocal, version, [], []⟩
  | (45 :: option :: attached) :: rest =>
      if option = 108 then
        (scanArguments true version rest).map (CommandLine.after · [.option])
      else if option = 114 then
        (scanArguments false version rest).map (CommandLine.after · [.option])
      else if option = 68 then
        (scanArguments isLocal version rest).map (CommandLine.after · [.option])
      else if option = 86 then
        (scanArguments isLocal true rest).map (CommandLine.after · [.option])
      else if option = 76 || option = 82 || option = 112 || option = 99 then
        if attached = [] then
          -- `++i` skips the value, or leaves the loop at the last argument
          match rest with
          | [] => .ok ⟨isLocal, version, [.option], []⟩
          | _ :: rest =>
              (scanArguments isLocal version rest).map (CommandLine.after · [.option, .value])
        else
          (scanArguments isLocal version rest).map (CommandLine.after · [.option])
      else if option = 45 then
        .ok ⟨isLocal, version, [.terminator], rest⟩
      else if option = 84 || option = 116 || option = 100 || option = 115 then
        (scanArguments isLocal version rest).map (CommandLine.after · [.option])
      else
        .error (.exception "Unknown option")
  | arg :: rest => .ok ⟨isLocal, version, [], arg :: rest⟩

/-- `CreateTunnel`; the base class configures nothing on the remote side. -/
def CreateTunnel (bindStatus : ConnectionSpec → Int) (args : List (List Byte)) :
    Except Fault (StdioTunnelLocal ⊕ StdioTunnelRemote) := do
  let line ← scanArguments true false args
  if line.version ∧ args.length = 1 then
    throw (.silent "")
  if line.isLocal then
    let l ← StdioTunnelLocal.fresh.configure bindStatus args
    return .inl l
  else
    return .inr .fresh

variable {isLocal version : Bool} {line : CommandLine} {option : Byte} {attached : List Byte}
  {rest : List (List Byte)}

theorem scanArguments_option (isLocal version : Bool) (option : Byte) (attached : List Byte)
    (rest : List (List Byte)) : scanArguments isLocal version ((45 :: option :: attached) :: rest) =
      if option = 108 then
        (scanArguments true version rest).map (CommandLine.after · [.option])
      else if option = 114 then
        (scanArguments false version rest).map (CommandLine.after · [.option])
      else if option = 68 then
        (scanArguments isLocal version rest).map (CommandLine.after · [.option])
      else if option = 86 then
        (scanArguments isLocal true rest).map (CommandLine.after · [.option])
      else if option = 76 || option = 82 || option = 112 || option = 99 then
        if attached = [] then
          match rest with
          | [] => .ok ⟨isLocal, version, [.option], []⟩
          | _ :: rest =>
              (scanArguments isLocal version rest).map (CommandLine.after · [.option, .value])
        else
          (scanArguments isLocal version rest).map (CommandLine.after · [.option])
      else if option = 45 then
        .ok ⟨isLocal, version, [.terminator], rest⟩
      else if option = 84 || option = 116 || option = 100 || option = 115 then
        (scanArguments isLocal version rest).map (CommandLine.after · [.option])
      else
        .error (.exception "Unknown option") := by
  cases rest <;> rfl

/-- How the loop goes on after an option other than `--`. -/
inductive Takes (attached : List Byte) (option : Byte) (rest : List (List Byte))
    (line : CommandLine) : Prop where
  | joined {isLocal version : Bool} {later : CommandLine}
      (joined : ¬ (attached = [] ∧ StdioTunnelLocal.takesValue option = true))
      (next : scanArguments isLocal version rest = .ok later)
      (same : line = later.after [.option])
  | separate {isLocal version : Bool} {later : CommandLine} {value : List Byte}
      {after : List (List Byte)}
      (separate : attached = [] ∧ StdioTunnelLocal.takesValue option = true)
      (parts : rest = value :: after)
      (next : scanArguments isLocal version after = .ok later)
      (same : line = later.after [.option, .value])
  | last (separate : attached = [] ∧ StdioTunnelLocal.takesValue option = true)
      (none : rest = []) (words : line.words = [.option]) (ended : line.rest = [])

theorem scanArguments_takes (other : option ≠ 45)
    (result : scanArguments isLocal version ((45 :: option :: attached) :: rest) = .ok line) :
    Takes attached option rest line := by
  have noValue : ∀ {o : Byte}, option = o → o ≠ 82 → o ≠ 76 → o ≠ 112 → o ≠ 99 →
      ¬ (attached = [] ∧ StdioTunnelLocal.takesValue option = true) := by
    rintro o letter noR noL noP noC ⟨_, takes⟩
    rw [letter] at takes
    simp only [StdioTunnelLocal.takesValue, Bool.or_eq_true, decide_eq_true_eq] at takes
    tauto
  rw [scanArguments_option] at result
  split at result
  · rename_i letter
    obtain ⟨later, next, same⟩ := of_map_ok result
    exact .joined (noValue letter (by decide) (by decide) (by decide) (by decide)) next same.symm
  split at result
  · rename_i letter
    obtain ⟨later, next, same⟩ := of_map_ok result
    exact .joined (noValue letter (by decide) (by decide) (by decide) (by decide)) next same.symm
  split at result
  · rename_i letter
    obtain ⟨later, next, same⟩ := of_map_ok result
    exact .joined (noValue letter (by decide) (by decide) (by decide) (by decide)) next same.symm
  split at result
  · rename_i letter
    obtain ⟨later, next, same⟩ := of_map_ok result
    exact .joined (noValue letter (by decide) (by decide) (by decide) (by decide)) next same.symm
  split at result
  · rename_i letter
    have takes : StdioTunnelLocal.takesValue option = true := by
      simp only [Bool.or_eq_true, decide_eq_true_eq] at letter
      simp only [StdioTunnelLocal.takesValue, Bool.or_eq_true, decide_eq_true_eq]
      tauto
    split at result
    · rename_i bare
      cases rest with
      | nil =>
          rw [← Except.ok.inj result]
          exact .last ⟨bare, takes⟩ rfl rfl rfl
      | cons value after =>
          obtain ⟨later, next, same⟩ := of_map_ok result
          exact .separate ⟨bare, takes⟩ rfl next same.symm
    · rename_i attached'
      obtain ⟨later, next, same⟩ := of_map_ok result
      exact .joined (fun both => attached' both.1) next same.symm
  rename_i noLetter
  split at result
  · obtain ⟨later, next, same⟩ := of_map_ok result
    refine .joined ?_ next same.symm
    rintro ⟨_, takes⟩
    simp only [StdioTunnelLocal.takesValue, Bool.or_eq_true, decide_eq_true_eq] at takes
    simp only [Bool.or_eq_true, decide_eq_true_eq] at noLetter
    tauto
  · cases result

/-- Both scans take the arguments in the same way, and stop at the same one. -/
theorem scanArguments_agrees {args : List (List Byte)}
    (result : scanArguments isLocal version args = .ok line) :
    line.words = (StdioTunnelLocal.scan args).words ∧
      line.rest = args.drop line.words.length ∧
        ((StdioTunnelLocal.scan args).command = some line.rest ∨
          (StdioTunnelLocal.scan args).command = none) := by
  induction args using StdioTunnelLocal.scan.induct generalizing isLocal version line with
  | case1 =>
      rw [← Except.ok.inj result]
      exact ⟨rfl, rfl, Or.inr rfl⟩
  | case2 attached rest =>
      have stops := scanArguments_option isLocal version 45 attached rest
      rw [← Except.ok.inj (stops.symm.trans result)]
      exact ⟨rfl, rfl, Or.inl rfl⟩
  | case3 option attached other =>
      rw [StdioTunnelLocal.scan.eq_3 _ _ other]
      cases scanArguments_takes other result with
      | joined _ next same =>
          obtain rfl := Except.ok.inj next
          rw [same]
          exact ⟨rfl, rfl, Or.inr rfl⟩
      | separate _ parts _ _ => cases parts
      | last _ _ words ended =>
          rw [words, ended]
          exact ⟨rfl, rfl, Or.inr rfl⟩
  | case4 option attached value rest other separate ih =>
      rw [StdioTunnelLocal.scan.eq_4 _ _ _ _ other, if_pos separate]
      cases scanArguments_takes other result with
      | joined joined _ _ => exact absurd separate joined
      | separate _ parts next same =>
          obtain ⟨rfl, rfl⟩ := List.cons.inj parts
          obtain ⟨words, dropped, command⟩ := ih next
          rw [same]
          exact ⟨congrArg ([Word.option, Word.value] ++ ·) words, dropped, command⟩
      | last _ none _ _ => cases none
  | case5 option attached next' rest other joined ih =>
      rw [StdioTunnelLocal.scan.eq_4 _ _ _ _ other, if_neg joined]
      cases scanArguments_takes other result with
      | joined _ next same =>
          obtain ⟨words, dropped, command⟩ := ih next
          rw [same]
          exact ⟨congrArg ([Word.option] ++ ·) words, dropped, command⟩
      | separate separate _ _ _ => exact absurd separate joined
      | last separate _ _ _ => exact absurd separate joined
  | case6 arg rest noDashes noOption noValue =>
      rw [StdioTunnelLocal.scan.eq_5 _ _ noDashes noOption noValue]
      have stops : scanArguments isLocal version (arg :: rest) =
          .ok ⟨isLocal, version, [], arg :: rest⟩ := by
        rw [scanArguments.eq_def]
        split
        · rename_i none
          cases none
        · rename_i some'
          cases some'
          cases rest with
          | nil => exact absurd rfl (noOption _ _ rfl)
          | cons _ _ => exact absurd rfl (noValue _ _ _ _ rfl)
        · rename_i same
          cases same
          rfl
      rw [stops] at result
      rw [← Except.ok.inj result]
      exact ⟨rfl, rfl, Or.inl rfl⟩

/--
When `CreateTunnel` returns the local side, its scan and the loop of `configure`
took every argument before the command in the same way, and the command starts
where the scan of `CreateTunnel` stopped.
-/
theorem scans_agree {bindStatus : ConnectionSpec → Int} {args : List (List Byte)}
    {l : StdioTunnelLocal} (created : CreateTunnel bindStatus args = .ok (.inl l)) :
    ∃ line count words, scanArguments true false args = .ok line ∧
      StdioTunnelLocal.fresh.configureLoop 0 bindStatus args = .ok (l, count, words) ∧
      words = line.words ∧ l.m_command = some line.rest ∧
        line.rest = args.drop line.words.length := by
  unfold CreateTunnel at created
  obtain ⟨line, scanned, created⟩ := of_bind_ok created
  have configured : StdioTunnelLocal.fresh.configure bindStatus args = .ok l := by
    dsimp only at created
    split at created
    · cases created
    · split at created
      · obtain ⟨l', configured, same⟩ := of_bind_ok created
        rw [← Sum.inl.inj (Except.ok.inj same)]
        exact configured
      · cases created
  obtain ⟨words, dropped, command⟩ := scanArguments_agrees scanned
  obtain ⟨set, known⟩ := StdioTunnelLocal.configure_command configured
  obtain ⟨count, loop⟩ := StdioTunnelLocal.configure_loop configured
  refine ⟨line, count, _, scanned, loop, words.symm, ?_, dropped⟩
  rcases command with here | none
  · exact set.trans here
  · exact absurd (set.trans none) known

def mixedArguments : List (List Byte) :=
  [text "-l", text "-L80:host:80", text "-p", text "-L", text "-R", text "81:host:81:a", text "-cx",
    text "--", text "-L", text "ssh"]

theorem scans_agree_mixed :
    ∃ (l : StdioTunnelLocal) (line : CommandLine) (count : Nat) (words : List Word),
      scanArguments true false mixedArguments = .ok line ∧
      StdioTunnelLocal.fresh.configureLoop 0 (fun _ => 0) mixedArguments =
        .ok (l, count, words) ∧
      words = line.words ∧ l.m_command = some line.rest ∧
        line.rest = mixedArguments.drop line.words.length := by
  have created : (match CreateTunnel (fun _ => 0) mixedArguments with
      | .ok (.inl _) => true
      | _ => false) = true := by
    decide +kernel
  match known : CreateTunnel (fun _ => 0) mixedArguments with
  | .ok (.inl l) =>
      obtain ⟨line, count, words, agree⟩ := scans_agree known
      exact ⟨l, line, count, words, agree⟩
  | .ok (.inr _) =>
      rw [known] at created
      cases created
  | .error _ =>
      rw [known] at created
      cases created

end StdioTunnel

end Tun01
