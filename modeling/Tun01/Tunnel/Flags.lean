import Tun01.Tunnel.Options

/-!
# The order of the options

The flags `-s`, `-d`, `-t` and `-T` set one member each.  This module moves
them among the other options and compares what `configure` returns.
-/

namespace Tun01

namespace StdioTunnelLocal

variable {l l' : StdioTunnelLocal} {bindStatus : ConnectionSpec → Int} {count count' : Nat}
  {options more : List (Byte × List Byte)} {args : List (List Byte)} {fault : Fault}

/-- The options `-s`, `-d`, `-T` and `-t`. -/
def isFlag (option : Byte × List Byte) : Bool :=
  option.1 = 115 || option.1 = 100 || option.1 = 84 || option.1 = 116

/-- The members the flags among some options set. -/
def flagged (l : StdioTunnelLocal) (options : List (Byte × List Byte)) : StdioTunnelLocal :=
  { l with
    m_silent := l.m_silent || options.any fun option => option.1 = 115
    m_daemon := l.m_daemon || options.any fun option => option.1 = 100
    m_force_pipe := l.m_force_pipe || options.any fun option => option.1 = 84
    m_expects_pipe := l.m_expects_pipe || options.any fun option => option.1 = 116 }

@[simp] theorem flagged_nil (l : StdioTunnelLocal) : l.flagged [] = l := by
  simp only [flagged, List.any_nil, Bool.or_false]

theorem isFlag_cases {option : Byte × List Byte} (flag : isFlag option = true) :
    option.1 = 115 ∨ option.1 = 100 ∨ option.1 = 84 ∨ option.1 = 116 := by
  simp only [isFlag, Bool.or_eq_true, decide_eq_true_eq] at flag
  tauto

theorem isFlag_connects {option : Byte × List Byte} (flag : isFlag option = true) :
    option.1 ≠ 82 ∧ option.1 ≠ 76 := by
  rcases isFlag_cases flag with letter | letter | letter | letter <;> rw [letter] <;> decide

theorem flagged_flagged (l : StdioTunnelLocal) (options more : List (Byte × List Byte)) :
    (l.flagged options).flagged more = l.flagged (options ++ more) := by
  simp only [flagged, List.any_append, Bool.or_assoc]

/-- A flag sets the member `flagged` counts it for. -/
theorem plainOption_flag {option : Byte × List Byte} (flag : isFlag option = true) :
    l.plainOption option.1 option.2 = l.flagged [option] := by
  rcases isFlag_cases flag with letter | letter | letter | letter <;>
    simp [plainOption, flagged, letter]

/-- Options that are no flags are not counted. -/
theorem flagged_cons {option : Byte × List Byte} (other : isFlag option = false) :
    l.flagged (option :: options) = l.flagged options := by
  simp only [isFlag, Bool.or_eq_false_iff, decide_eq_false_iff_not] at other
  obtain ⟨⟨⟨noS, noD⟩, noT⟩, not⟩ := other
  simp only [flagged, List.any_cons, noS, noD, noT, not, decide_false, Bool.false_or]

/-! ## Options without a check of the ports -/

/-- `bindStatus` when every port is free. -/
def free : ConnectionSpec → Int := fun _ => 0

theorem bindFault_free (spec : ConnectionSpec) : bindFault free spec = none := rfl

/-- An option that is no flag leaves the flags as they are. -/
theorem applyOption_flagged {option : Byte × List Byte} (other : isFlag option = false)
    (l : StdioTunnelLocal) (count : Nat) (flags : List (Byte × List Byte)) :
    (l.flagged flags).applyOption count free option.1 option.2 =
      (l.applyOption count free option.1 option.2).map fun result =>
        (result.1.flagged flags, result.2) := by
  obtain ⟨letter, value⟩ := option
  dsimp only
  by_cases isListen : letter = 82
  · subst isListen
    rw [applyOption_listen, applyOption_listen]
    cases parseConnection .LISTEN value with
    | error fault => rfl
    | ok spec => rfl
  by_cases isConnect : letter = 76
  · subst isConnect
    rw [applyOption_connect, applyOption_connect]
    simp only [bindFault_free, ite_self]
    cases parseConnection .CONNECT value with
    | error fault => rfl
    | ok spec => rfl
  · rw [applyOption_plain _ _ _ _ isListen isConnect, applyOption_plain _ _ _ _ isListen isConnect]
    simp only [isFlag, Bool.or_eq_false_iff, decide_eq_false_iff_not] at other
    obtain ⟨⟨⟨noS, noD⟩, noT⟩, not⟩ := other
    unfold plainOption
    rw [if_neg noT, if_neg noT, if_neg not, if_neg not, if_neg noD, if_neg noD, if_neg noS,
      if_neg noS]
    repeat' split
    all_goals rfl

theorem applyOptions_flagged (others : ∀ option ∈ options, isFlag option = false)
    (l : StdioTunnelLocal) (count : Nat) (flags : List (Byte × List Byte)) :
    (l.flagged flags).applyOptions count free options =
      (l.applyOptions count free options).map fun result => (result.1.flagged flags, result.2) := by
  induction options generalizing l count with
  | nil => rfl
  | cons option options ih =>
      rw [applyOptions_cons, applyOptions_cons,
        applyOption_flagged (others option List.mem_cons_self)]
      cases l.applyOption count free option.1 option.2 with
      | error fault => rfl
      | ok result => exact ih (fun o member => others o (List.mem_cons_of_mem _ member)) _ _

/-! ## Ports that are in use -/

/--
Some `-L` asks for a port on which the check fails with this fault, and every
connection before it can be parsed.
-/
inductive Obstructed (bindStatus : ConnectionSpec → Int) (fault : Fault) :
    List (Byte × List Byte) → Prop where
  | here {value : List Byte} {spec : ConnectionSpec} {options : List (Byte × List Byte)}
      (parses : parseConnection .CONNECT value = .ok spec)
      (bound : bindFault bindStatus spec = some fault) :
      Obstructed bindStatus fault ((76, value) :: options)
  | connect {value : List Byte} {spec : ConnectionSpec} {options : List (Byte × List Byte)}
      (parses : parseConnection .CONNECT value = .ok spec)
      (unbound : bindFault bindStatus spec = none) (later : Obstructed bindStatus fault options) :
      Obstructed bindStatus fault ((76, value) :: options)
  | listen {value : List Byte} {spec : ConnectionSpec} {options : List (Byte × List Byte)}
      (parses : parseConnection .LISTEN value = .ok spec)
      (later : Obstructed bindStatus fault options) :
      Obstructed bindStatus fault ((82, value) :: options)
  | plain {option : Byte × List Byte} {options : List (Byte × List Byte)}
      (noListen : option.1 ≠ 82) (noConnect : option.1 ≠ 76)
      (later : Obstructed bindStatus fault options) :
      Obstructed bindStatus fault (option :: options)

/-- Only the options that are no flags matter. -/
theorem obstructed_filter : Obstructed bindStatus fault options ↔
    Obstructed bindStatus fault (options.filter fun option => !isFlag option) := by
  constructor
  · intro obstructed
    induction obstructed with
    | here parses bound => exact .here parses bound
    | connect parses unbound _ ih => exact .connect parses unbound ih
    | listen parses _ ih => exact .listen parses ih
    | @plain option options noListen noConnect _ ih =>
        cases flag : isFlag option with
        | true =>
            rw [List.filter_cons_of_neg (by simp [flag])]
            exact ih
        | false =>
            rw [List.filter_cons_of_pos (by simp [flag])]
            exact .plain noListen noConnect ih
  · intro obstructed
    induction options with
    | nil => exact obstructed
    | cons option options ih =>
        cases flag : isFlag option with
        | true =>
            rw [List.filter_cons_of_neg (by simp [flag])] at obstructed
            obtain ⟨noListen, noConnect⟩ := isFlag_connects flag
            exact .plain noListen noConnect (ih obstructed)
        | false =>
            rw [List.filter_cons_of_pos (by simp [flag])] at obstructed
            cases obstructed with
            | here parses bound => exact .here parses bound
            | connect parses unbound later => exact .connect parses unbound (ih later)
            | listen parses later => exact .listen parses (ih later)
            | plain noListen noConnect later => exact .plain noListen noConnect (ih later)

theorem plainOption_silent {option : Byte} {value : List Byte} (silent : l.m_silent = true) :
    (l.plainOption option value).m_silent = true := by
  unfold plainOption
  repeat' split
  all_goals first | exact silent | rfl

/-- Once `-s` has been seen, the first check that fails ends the loop. -/
theorem applyOptions_obstructed (silent : l.m_silent = true)
    (obstructed : Obstructed bindStatus fault options) :
    l.applyOptions count bindStatus options = .error fault := by
  induction obstructed generalizing l count with
  | here parses bound =>
      rw [applyOptions_cons, applyOption_connect, parses]
      unfold Except.bind
      dsimp only
      rw [if_pos silent, bound]
  | connect parses unbound _ ih =>
      rw [applyOptions_cons, applyOption_connect, parses]
      unfold Except.bind
      dsimp only
      rw [if_pos silent, unbound]
      exact ih silent
  | listen parses _ ih =>
      rw [applyOptions_cons, applyOption_listen, parses]
      exact ih silent
  | @plain option _ noListen noConnect _ ih =>
      rw [applyOptions_cons, applyOption_plain _ _ _ _ noListen noConnect]
      exact ih (plainOption_silent silent)

/-- No check fails: there is no `-s`, or no port is in the way. -/
def Unhindered (bindStatus : ConnectionSpec → Int) (l : StdioTunnelLocal)
    (options : List (Byte × List Byte)) : Prop :=
  (l.m_silent = false ∧ ∀ option ∈ options, option.1 ≠ 115) ∨
    ∀ fault, ¬ Obstructed bindStatus fault options

theorem Unhindered.tail {option : Byte × List Byte}
    (unhindered : Unhindered bindStatus l (option :: options))
    (silent : option.1 ≠ 115 → l'.m_silent = l.m_silent)
    (longer : ∀ fault, Obstructed bindStatus fault options →
      Obstructed bindStatus fault (option :: options)) : Unhindered bindStatus l' options := by
  rcases unhindered with ⟨unset, noS⟩ | unobstructed
  · exact Or.inl ⟨(silent (noS option List.mem_cons_self)).trans unset,
      fun o member => noS o (List.mem_cons_of_mem _ member)⟩
  · exact Or.inr fun fault later => unobstructed fault (longer fault later)

/-- The check of a port that stands in front does not fail. -/
theorem Unhindered.check {value : List Byte} {spec : ConnectionSpec}
    (unhindered : Unhindered bindStatus l ((76, value) :: options))
    (parses : parseConnection .CONNECT value = .ok spec) :
    (if l.m_silent then bindFault bindStatus spec else none) = none := by
  rcases unhindered with ⟨unset, _⟩ | unobstructed
  · rw [unset]
    rfl
  · cases bound : bindFault bindStatus spec with
    | none => exact ite_self none
    | some fault => exact absurd (.here parses bound) (unobstructed fault)

theorem Unhindered.addSpec {value : List Byte} {spec : ConnectionSpec}
    (unhindered : Unhindered bindStatus l ((76, value) :: options))
    (parses : parseConnection .CONNECT value = .ok spec) :
    Unhindered bindStatus (l.addSpec spec) options := by
  rcases unhindered with ⟨unset, noS⟩ | unobstructed
  · exact Or.inl ⟨unset, fun o member => noS o (List.mem_cons_of_mem _ member)⟩
  · refine Or.inr fun fault later => ?_
    cases bound : bindFault bindStatus spec with
    | none => exact unobstructed fault (.connect parses bound later)
    | some fault => exact unobstructed fault (.here parses bound)

theorem plainOption_other {option : Byte × List Byte} (noS : option.1 ≠ 115) :
    (l.plainOption option.1 option.2).m_silent = l.m_silent := by
  unfold plainOption
  repeat' split
  all_goals rfl

/-- Unhindered options do the same wherever the flags among them stand. -/
theorem applyOptions_unhindered (unhindered : Unhindered bindStatus l options) :
    l.applyOptions count bindStatus options =
      (l.applyOptions count free (options.filter fun option => !isFlag option)).map fun result =>
        (result.1.flagged options, result.2) := by
  induction options generalizing l count with
  | nil =>
      change Except.ok (l, count) = Except.ok (l.flagged [], count)
      rw [flagged_nil]
  | cons option options ih =>
      cases flag : isFlag option with
      | true =>
          have others : ∀ o ∈ options.filter fun option => !isFlag option, isFlag o = false := by
            intro o member
            simpa using (List.mem_filter.mp member).2
          obtain ⟨noListen, noConnect⟩ := isFlag_connects flag
          have later : Unhindered bindStatus (l.plainOption option.1 option.2) options :=
            unhindered.tail plainOption_other fun fault => .plain noListen noConnect
          rw [List.filter_cons_of_neg (by simp [flag]), applyOptions_cons,
            applyOption_plain _ _ _ _ noListen noConnect]
          change (l.plainOption option.1 option.2).applyOptions count bindStatus options = _
          rw [ih later, plainOption_flag flag, applyOptions_flagged others]
          cases l.applyOptions count free (options.filter fun option => !isFlag option) with
          | error fault => rfl
          | ok result =>
              change Except.ok ((result.1.flagged [option]).flagged options, result.2) = _
              rw [flagged_flagged]
              rfl
      | false =>
          rw [List.filter_cons_of_pos (by simp [flag]), applyOptions_cons, applyOptions_cons]
          simp only [flagged_cons flag]
          obtain ⟨letter, value⟩ := option
          dsimp only
          by_cases isListen : letter = 82
          · subst isListen
            rw [applyOption_listen, applyOption_listen]
            cases parses : parseConnection .LISTEN value with
            | error fault => rfl
            | ok spec => exact ih (unhindered.tail (fun _ => rfl) fun fault => .listen parses)
          by_cases isConnect : letter = 76
          · subst isConnect
            rw [applyOption_connect, applyOption_connect]
            cases parses : parseConnection .CONNECT value with
            | error fault => rfl
            | ok spec =>
                unfold Except.bind
                dsimp only
                rw [unhindered.check parses, bindFault_free, ite_self]
                exact ih (unhindered.addSpec parses)
          · rw [applyOption_plain _ _ _ _ isListen isConnect,
              applyOption_plain _ _ _ _ isListen isConnect]
            exact ih (unhindered.tail plainOption_other fun fault => .plain isListen isConnect)

/-! ## What goes wrong without a check -/

theorem parseConnection_exception {direction : Direction} {arg : List Byte}
    (result : parseConnection direction arg = .error fault) :
    ∃ message, fault = .exception message := by
  unfold parseConnection at result
  simp only [bind, Except.bind, throw, throwThe, MonadExceptOf.throw, pure, Except.pure] at result
  repeat' split at result
  all_goals cases result
  all_goals exact ⟨_, rfl⟩

/-- Without `-s` the loop ends early only at an argument that cannot be parsed. -/
theorem applyOptions_exception (silent : l.m_silent = false)
    (noS : ∀ option ∈ options, option.1 ≠ 115)
    (result : l.applyOptions count bindStatus options = .error fault) :
    ∃ message, fault = .exception message := by
  induction options generalizing l count with
  | nil => cases result
  | cons option options ih =>
      have later : ∀ {l₁ : StdioTunnelLocal} {count₁ : Nat}, l₁.m_silent = false →
          l₁.applyOptions count₁ bindStatus options = .error fault →
          ∃ message, fault = .exception message :=
        fun silent => ih silent fun o member => noS o (List.mem_cons_of_mem _ member)
      rw [applyOptions_cons] at result
      obtain ⟨letter, value⟩ := option
      dsimp only at result
      by_cases isListen : letter = 82
      · subst isListen
        rw [applyOption_listen] at result
        cases parses : parseConnection .LISTEN value with
        | error fault' =>
            rw [parses] at result
            rw [← Except.error.inj result]
            exact parseConnection_exception parses
        | ok spec =>
            rw [parses] at result
            exact @later (l.addSpec spec) _ silent result
      by_cases isConnect : letter = 76
      · subst isConnect
        rw [applyOption_connect] at result
        cases parses : parseConnection .CONNECT value with
        | error fault' =>
            rw [parses] at result
            rw [← Except.error.inj result]
            exact parseConnection_exception parses
        | ok spec =>
            rw [parses] at result
            unfold Except.bind at result
            dsimp only at result
            rw [silent] at result
            exact @later (l.addSpec spec) _ silent result
      · rw [applyOption_plain _ _ _ _ isListen isConnect] at result
        exact later ((plainOption_other (noS (letter, value) List.mem_cons_self)).trans silent)
          result

theorem finish_exception (result : l.finish count = .error fault) :
    ∃ message, fault = .exception message := by
  unfold finish at result
  simp only [bind, Except.bind, throw, throwThe, MonadExceptOf.throw, pure, Except.pure] at result
  repeat' split at result
  all_goals cases result
  all_goals exact ⟨_, rfl⟩

theorem bindFault_exception {spec : ConnectionSpec} (bound : bindFault bindStatus spec = some fault)
    (message : String) : fault ≠ .exception message := by
  unfold bindFault at bound
  split at bound
  · rw [← Option.some.inj bound]
    nofun
  · split at bound
    · rw [← Option.some.inj bound]
      nofun
    · cases bound

theorem Obstructed.exception (obstructed : Obstructed bindStatus fault options) (message : String) :
    fault ≠ .exception message := by
  induction obstructed with
  | here _ bound => exact bindFault_exception bound message
  | connect _ _ _ ih => exact ih
  | listen _ _ ih => exact ih
  | plain _ _ _ ih => exact ih

/-- The flags stand elsewhere among the options; everything else is as it was. -/
structure Rearranged (args args' : List (List Byte)) : Prop where
  others : (scan args').options.filter (fun option => !isFlag option) =
    (scan args).options.filter fun option => !isFlag option
  flags : ((scan args').options.filter isFlag).Perm ((scan args).options.filter isFlag)
  command : (scan args').command = (scan args).command

theorem Rearranged.mem {args' : List (List Byte)} (rearranged : Rearranged args args')
    (letter : Byte) (flag : ∀ value, isFlag (letter, value) = true) :
    ((scan args').options.any fun option => option.1 = letter) =
      (scan args).options.any fun option => option.1 = letter := by
  have member : ∀ option : Byte × List Byte, isFlag option = true →
      (option ∈ (scan args').options ↔ option ∈ (scan args).options) := by
    intro option isFlag
    have same := rearranged.flags.mem_iff (a := option)
    simpa only [List.mem_filter, isFlag, and_true] using same
  rw [Bool.eq_iff_iff, List.any_eq_true, List.any_eq_true]
  constructor
  · rintro ⟨⟨_, value⟩, inside, same⟩
    obtain rfl := of_decide_eq_true same
    exact ⟨_, (member _ (flag value)).mp inside, same⟩
  · rintro ⟨⟨_, value⟩, inside, same⟩
    obtain rfl := of_decide_eq_true same
    exact ⟨_, (member _ (flag value)).mpr inside, same⟩

theorem Rearranged.flagged {args' : List (List Byte)} (rearranged : Rearranged args args')
    (l : StdioTunnelLocal) :
    l.flagged (scan args').options = l.flagged (scan args).options := by
  unfold StdioTunnelLocal.flagged
  rw [rearranged.mem 115 (by simp [isFlag]), rearranged.mem 100 (by simp [isFlag]),
    rearranged.mem 84 (by simp [isFlag]), rearranged.mem 116 (by simp [isFlag])]

theorem Rearranged.unhindered {args' : List (List Byte)} (rearranged : Rearranged args args')
    (unhindered : Unhindered bindStatus l (scan args).options) :
    Unhindered bindStatus l (scan args').options := by
  rcases unhindered with ⟨unset, noS⟩ | unobstructed
  · refine Or.inl ⟨unset, fun option member same => ?_⟩
    have some' : ((scan args').options.any fun option => option.1 = 115) = true :=
      List.any_eq_true.mpr ⟨option, member, decide_eq_true same⟩
    rw [rearranged.mem 115 (by simp [isFlag])] at some'
    obtain ⟨option', member', same'⟩ := List.any_eq_true.mp some'
    exact noS option' member' (of_decide_eq_true same')
  · refine Or.inr fun fault obstructed => unobstructed fault ?_
    rw [obstructed_filter, rearranged.others, ← obstructed_filter] at obstructed
    exact obstructed

/-- The result does not depend on the order when no check fails. -/
theorem configure_unhindered {args' : List (List Byte)} (rearranged : Rearranged args args')
    (unhindered : Unhindered bindStatus l (scan args).options) :
    l.configure bindStatus args' = l.configure bindStatus args := by
  rw [configure_scan, configure_scan, applyOptions_unhindered unhindered,
    applyOptions_unhindered (rearranged.unhindered unhindered), rearranged.others,
    rearranged.command]
  simp only [rearranged.flagged]

/-! ## Arguments for given options -/

def render (option : Byte × List Byte) : List (List Byte) :=
  if option.2 = [] ∧ takesValue option.1 = true then [[45, option.1], []]
  else [45 :: option.1 :: option.2]

def renderCommand : Option (List (List Byte)) → List (List Byte)
  | none => []
  | some command => [45, 45] :: command

theorem scan_renderCommand (command : Option (List (List Byte))) :
    scan (renderCommand command) = ⟨match command with | none => [] | some _ => [.terminator], [],
      command⟩ := by
  cases command <;> rfl

theorem scan_render (option : Byte × List Byte) (other : option.1 ≠ 45)
    (rest : List (List Byte)) : (scan (render option ++ rest)).options =
      option :: (scan rest).options ∧ (scan (render option ++ rest)).command =
        (scan rest).command := by
  obtain ⟨letter, value⟩ := option
  unfold render
  by_cases separate : value = [] ∧ takesValue letter = true
  · rw [if_pos separate, List.cons_append, List.cons_append, List.nil_append, scan_next other,
      if_pos ⟨rfl, separate.2⟩, separate.1]
    exact ⟨rfl, rfl⟩
  · rw [if_neg separate, List.cons_append, List.nil_append]
    cases rest with
    | nil =>
        rw [scan_single other]
        exact ⟨rfl, rfl⟩
    | cons next rest =>
        rw [scan_next other, if_neg separate]
        exact ⟨rfl, rfl⟩

/-- Every list of options has its arguments. -/
theorem scan_rendered (others : ∀ option ∈ options, option.1 ≠ 45)
    (command : Option (List (List Byte))) :
    (scan (options.flatMap render ++ renderCommand command)).options = options ∧
      (scan (options.flatMap render ++ renderCommand command)).command = command := by
  induction options with
  | nil =>
      rw [List.flatMap_nil, List.nil_append, scan_renderCommand]
      exact ⟨rfl, rfl⟩
  | cons option options ih =>
      obtain ⟨letters, commands⟩ := ih fun o member => others o (List.mem_cons_of_mem _ member)
      obtain ⟨first, last⟩ := scan_render option (others option List.mem_cons_self)
        (options.flatMap render ++ renderCommand command)
      rw [List.flatMap_cons, List.append_assoc, first, last, letters]
      exact ⟨rfl, commands⟩

theorem scan_letters (args : List (List Byte)) : ∀ option ∈ (scan args).options, option.1 ≠ 45 := by
  induction args using scan.induct with
  | case1 => exact fun option member => by cases member
  | case2 attached rest => exact fun option member => by cases member
  | case3 letter attached other =>
      rw [scan.eq_3 _ _ other]
      intro option member
      rw [List.mem_singleton.mp member]
      exact fun same => other same
  | case4 letter attached value rest other separate ih =>
      rw [scan.eq_4 _ _ _ _ other, if_pos separate]
      intro option member
      rcases List.mem_cons.mp member with rfl | later
      · exact fun same => other same
      · exact ih option later
  | case5 letter attached next rest other joined ih =>
      rw [scan.eq_4 _ _ _ _ other, if_neg joined]
      intro option member
      rcases List.mem_cons.mp member with rfl | later
      · exact fun same => other same
      · exact ih option later
  | case6 arg rest noDashes noOption noValue =>
      rw [scan.eq_5 _ _ noDashes noOption noValue]
      exact fun option member => by cases member

def flagsFirst (args : List (List Byte)) : List (List Byte) :=
  ((scan args).options.filter isFlag ++
    (scan args).options.filter fun option => !isFlag option).flatMap render ++
      renderCommand (scan args).command

def flagsLast (args : List (List Byte)) : List (List Byte) :=
  (((scan args).options.filter fun option => !isFlag option) ++
    (scan args).options.filter isFlag).flatMap render ++ renderCommand (scan args).command

theorem flagsFirst_scan (args : List (List Byte)) :
    (scan (flagsFirst args)).options = (scan args).options.filter isFlag ++
        ((scan args).options.filter fun option => !isFlag option) ∧
      (scan (flagsFirst args)).command = (scan args).command := by
  refine scan_rendered (fun option member => ?_) _
  rcases List.mem_append.mp member with inFlags | inOthers
  · exact scan_letters args option (List.mem_filter.mp inFlags).1
  · exact scan_letters args option (List.mem_filter.mp inOthers).1

theorem flagsLast_scan (args : List (List Byte)) :
    (scan (flagsLast args)).options = ((scan args).options.filter fun option => !isFlag option) ++
        (scan args).options.filter isFlag ∧
      (scan (flagsLast args)).command = (scan args).command := by
  refine scan_rendered (fun option member => ?_) _
  rcases List.mem_append.mp member with inOthers | inFlags
  · exact scan_letters args option (List.mem_filter.mp inOthers).1
  · exact scan_letters args option (List.mem_filter.mp inFlags).1

theorem filter_flags (options : List (Byte × List Byte)) :
    (options.filter isFlag).filter isFlag = options.filter isFlag ∧
      ((options.filter fun option => !isFlag option).filter isFlag = []) ∧
      ((options.filter isFlag).filter fun option => !isFlag option) = [] ∧
      ((options.filter fun option => !isFlag option).filter fun option => !isFlag option) =
        options.filter fun option => !isFlag option := by
  simp [List.filter_filter]

theorem flagsFirst_rearranged (args : List (List Byte)) : Rearranged args (flagsFirst args) := by
  obtain ⟨options, command⟩ := flagsFirst_scan args
  obtain ⟨both, none, none', both'⟩ := filter_flags (scan args).options
  refine ⟨?_, ?_, command⟩
  · rw [options, List.filter_append, none', both', List.nil_append]
  · rw [options, List.filter_append, both, none, List.append_nil]

theorem flagsLast_rearranged (args : List (List Byte)) : Rearranged args (flagsLast args) := by
  obtain ⟨options, command⟩ := flagsLast_scan args
  obtain ⟨both, none, none', both'⟩ := filter_flags (scan args).options
  refine ⟨?_, ?_, command⟩
  · rw [options, List.filter_append, none', both', List.append_nil]
  · rw [options, List.filter_append, both, none, List.nil_append]

theorem applyOptions_append (l : StdioTunnelLocal) (count : Nat)
    (options more : List (Byte × List Byte)) :
    l.applyOptions count bindStatus (options ++ more) =
      (l.applyOptions count bindStatus options).bind fun result =>
        result.1.applyOptions result.2 bindStatus more := by
  induction options generalizing l count with
  | nil => rfl
  | cons option options ih =>
      rw [List.cons_append, applyOptions_cons, applyOptions_cons]
      cases l.applyOption count bindStatus option.1 option.2 with
      | error fault => rfl
      | ok result => exact ih result.1 result.2

theorem applyOptions_flags (flags : ∀ option ∈ options, isFlag option = true)
    (l : StdioTunnelLocal) (count : Nat) :
    l.applyOptions count bindStatus options = .ok (l.flagged options, count) := by
  induction options generalizing l with
  | nil => rw [flagged_nil]; rfl
  | cons option options ih =>
      have flag := flags option List.mem_cons_self
      obtain ⟨noListen, noConnect⟩ := isFlag_connects flag
      rw [applyOptions_cons, applyOption_plain _ _ _ _ noListen noConnect]
      change (l.plainOption option.1 option.2).applyOptions count bindStatus options = _
      rw [ih (fun o member => flags o (List.mem_cons_of_mem _ member)), plainOption_flag flag,
        flagged_flagged]
      rfl

/-- With `-s` in front the check that fails is made. -/
theorem configure_flagsFirst (silent : ∃ option ∈ (scan args).options, option.1 = 115)
    (obstructed : Obstructed bindStatus fault (scan args).options) (l : StdioTunnelLocal) :
    l.configure bindStatus (flagsFirst args) = .error fault := by
  obtain ⟨options, _⟩ := flagsFirst_scan args
  have set : (l.flagged ((scan args).options.filter isFlag)).m_silent = true := by
    obtain ⟨option, member, letter⟩ := silent
    have inFlags : option ∈ (scan args).options.filter isFlag :=
      List.mem_filter.mpr ⟨member, by simp [isFlag, letter]⟩
    have some' : ((scan args).options.filter isFlag).any (fun option => option.1 = 115) = true :=
      List.any_eq_true.mpr ⟨option, inFlags, decide_eq_true letter⟩
    unfold flagged
    dsimp only
    rw [some', Bool.or_true]
  rw [configure_scan, options, applyOptions_append,
    applyOptions_flags fun option member => (List.mem_filter.mp member).2]
  unfold Except.bind
  dsimp only
  rw [applyOptions_obstructed set (obstructed_filter.mp obstructed)]
  rfl

/-- With the flags behind no check is made. -/
theorem configure_flagsLast (unset : l.m_silent = false)
    (result : l.configure bindStatus (flagsLast args) = .error fault) :
    ∃ message, fault = .exception message := by
  obtain ⟨options, _⟩ := flagsLast_scan args
  rw [configure_scan, options, applyOptions_append] at result
  have noS : ∀ option ∈ (scan args).options.filter (fun option => !isFlag option),
      option.1 ≠ 115 := by
    intro option member letter
    have other := (List.mem_filter.mp member).2
    simp [isFlag, letter] at other
  cases applied : l.applyOptions 0 bindStatus
      ((scan args).options.filter fun option => !isFlag option) with
  | error fault' =>
      rw [applied] at result
      rw [← Except.error.inj result]
      exact applyOptions_exception unset noS applied
  | ok applied' =>
      rw [applied] at result
      unfold Except.bind at result
      dsimp only at result
      rw [applyOptions_flags fun option member => (List.mem_filter.mp member).2, ok_bind] at result
      exact finish_exception result

/--
Moving the flags leaves the result of `configure` as it is, exactly when there
is no `-s` or no `-L` that is reached asks for a port whose check fails.
-/
theorem configure_rearranged_iff (bindStatus : ConnectionSpec → Int) (args : List (List Byte)) :
    (∀ args', Rearranged args args' →
      fresh.configure bindStatus args' = fresh.configure bindStatus args) ↔
        ¬ ((∃ option ∈ (scan args).options, option.1 = 115) ∧
          ∃ fault, Obstructed bindStatus fault (scan args).options) := by
  constructor
  · rintro same ⟨silent, fault, obstructed⟩
    have first := same _ (flagsFirst_rearranged args)
    have last := same _ (flagsLast_rearranged args)
    rw [configure_flagsFirst silent obstructed] at first
    obtain ⟨message, exception⟩ := configure_flagsLast rfl (last.trans first.symm)
    exact obstructed.exception message exception
  · intro clear args' rearranged
    refine configure_unhindered rearranged ?_
    by_cases silent : ∃ option ∈ (scan args).options, option.1 = 115
    · exact Or.inr fun fault obstructed => clear ⟨silent, fault, obstructed⟩
    · exact Or.inl ⟨rfl, fun option member letter => silent ⟨option, member, letter⟩⟩

/-- `-s` behind a `-L` whose port is in use comes too late. -/
theorem not_configure_rearranged :
    ¬ ∀ (bindStatus : ConnectionSpec → Int) (args args' : List (List Byte)),
      Rearranged args args' →
        fresh.configure bindStatus args' = fresh.configure bindStatus args := by
  intro same
  have moved := same (fun _ => 1) [text "-s", text "-L80:host:80", text "ssh"]
    [text "-L80:host:80", text "-s", text "ssh"] (by
      refine ⟨?_, ?_, ?_⟩
      · decide +kernel
      · decide +kernel
      · decide +kernel)
  have early : (fresh.configure (fun _ => 1)
      [text "-s", text "-L80:host:80", text "ssh"]).isOk = false := by
    decide +kernel
  have late : (fresh.configure (fun _ => 1)
      [text "-L80:host:80", text "-s", text "ssh"]).isOk = true := by
    decide +kernel
  rw [moved, early] at late
  cases late

end StdioTunnelLocal

end Tun01
