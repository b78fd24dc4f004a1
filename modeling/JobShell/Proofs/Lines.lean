import JobShell.Proofs.Reading
import JobShell.Session.Line

/-!
The lines that tell of background jobs can be told from each other and from everything else that the
shell says: each determines its job, and the line that reports an end determines how it came. None of
the texts that the shell writes as one line is broken into several.
-/

namespace JobShell

private theorem digits_injective {m n : Nat} (h : Nat.toDigits 10 m = Nat.toDigits 10 n) :
    m = n := by
  simpa using congrArg (Nat.ofDigitChars 10 · 0) h

private theorem toList_toString (a : Int) : (toString a).toList =
    if 0 ≤ a then Nat.toDigits 10 a.toNat else '-' :: Nat.toDigits 10 (-a).toNat := by
  rw [Int.toString_eq_repr, Int.repr_eq_if]
  split <;> simp

private theorem isDigit_of_mem {c : Char} {n : Nat} (h : c ∈ Nat.toDigits 10 n) :
    c.isDigit = true :=
  Nat.isDigit_of_mem_toDigits (by decide) (by decide) h

private theorem toString_injective {a b : Int} (h : toString a = toString b) : a = b := by
  have hlist := congrArg String.toList h
  rw [toList_toString, toList_toString] at hlist
  have sign {n : Nat} {rest : List Char} (he : Nat.toDigits 10 n = '-' :: rest) : False := by
    have := isDigit_of_mem (c := '-') (n := n) (he ▸ List.mem_cons_self)
    simp at this
  split at hlist <;> split at hlist
  · have := digits_injective hlist
    omega
  · exact (sign hlist).elim
  · exact (sign hlist.symm).elim
  · have := digits_injective (List.cons.inj hlist).2
    omega

private theorem mem_toString {a : Int} {c : Char} (h : c ∈ (toString a).toList) :
    c = '-' ∨ c.isDigit = true := by
  rw [toList_toString] at h
  split at h
  · exact .inr (isDigit_of_mem h)
  · rcases List.mem_cons.mp h with rfl | h
    · exact .inl rfl
    · exact .inr (isDigit_of_mem h)

private theorem space_notMem_toString (a : Int) : ' ' ∉ (toString a).toList := by
  intro h
  simpa using mem_toString h

private theorem append_space_inj {first second rest rest' : List Char} (hf : ' ' ∉ first)
    (hs : ' ' ∉ second) (h : first ++ ' ' :: rest = second ++ ' ' :: rest') :
    first = second ∧ rest = rest' := by
  induction first generalizing second with
  | nil =>
    cases second with
    | nil => exact ⟨rfl, (List.cons.inj h).2⟩
    | cons c second =>
      obtain ⟨rfl, _⟩ := List.cons.inj h
      exact absurd List.mem_cons_self hs
  | cons c first ih =>
    cases second with
    | nil =>
      obtain ⟨rfl, _⟩ := List.cons.inj h
      exact absurd List.mem_cons_self hf
    | cons d second =>
      obtain ⟨rfl, hrest⟩ := List.cons.inj h
      obtain ⟨rfl, rfl⟩ := ih (fun hm => hf (List.mem_cons_of_mem _ hm))
        (fun hm => hs (List.mem_cons_of_mem _ hm)) hrest
      exact ⟨rfl, rfl⟩

private theorem head_append {start : String} {c : Char} (h : start.toList.head? = some c)
    (rest : String) : (start ++ rest).toList.head? = some c := by
  rw [String.toList_append, List.head?_append, h]
  rfl

private theorem Status.text_injective {first second : Status} (h : first.text = second.text) :
    first = second := by
  have exits (code : Int) : (exited code).text.toList.head? = some 'e' := head_append (by decide) _
  have kills (signal : Int) : (signaled signal).text.toList.head? = some 't' :=
    head_append (by decide) _
  cases first with
  | exited code =>
    cases second with
    | exited other => rw [toString_injective ((String.append_right_inj _).mp h)]
    | signaled signal => exact absurd ((exits code).symm.trans (h ▸ kills signal)) (by decide)
  | signaled signal =>
    cases second with
    | exited code => exact absurd ((kills signal).symm.trans (h ▸ exits code)) (by decide)
    | signaled other => rw [toString_injective ((String.append_right_inj _).mp h)]

namespace Session

variable {pid other : Pid} {job job' : Job} {status status' : Status}

theorem startedLine_injective (h : startedLine pid = startedLine other) : pid = other :=
  toString_injective ((String.append_right_inj _).mp h)

private theorem startedLine_toList (pid : Pid) : (startedLine pid).toList =
    "background pid ".toList ++ ("is " ++ toString pid).toList := by
  have hsplit : "background pid is " = "background pid " ++ "is " := by decide
  calc (startedLine pid).toList
      = ("background pid " ++ "is " ++ toString pid).toList :=
        congrArg (fun start => (start ++ toString pid).toList) hsplit
    _ = ("background pid " ++ ("is " ++ toString pid)).toList :=
        congrArg String.toList String.append_assoc
    _ = _ := String.toList_append

private theorem doneLine_toList (job : Job) (status : Status) : (doneLine job status).toList =
    "background pid ".toList ++
      ((toString job.pid).toList ++ ' ' :: ("is done: " ++ status.text).toList) := by
  have hsplit : " is done: ".toList = ' ' :: "is done: ".toList := by decide
  have hdone : (" is done: " ++ status.text).toList = ' ' :: ("is done: " ++ status.text).toList :=
    calc (" is done: " ++ status.text).toList
        = " is done: ".toList ++ status.text.toList := String.toList_append
      _ = ' ' :: ("is done: ".toList ++ status.text.toList) :=
        congrArg (· ++ status.text.toList) hsplit
      _ = _ := congrArg (' ' :: ·) String.toList_append.symm
  calc (doneLine job status).toList
      = ("background pid " ++ toString job.pid ++ (" is done: " ++ status.text)).toList :=
        congrArg String.toList String.append_assoc
    _ = ("background pid " ++ toString job.pid).toList ++ (" is done: " ++ status.text).toList :=
        String.toList_append
    _ = "background pid ".toList ++ (toString job.pid).toList ++
          ' ' :: ("is done: " ++ status.text).toList :=
        congr (congrArg (· ++ ·) String.toList_append) hdone
    _ = _ := List.append_assoc ..

/-- A report names the number of a job and how it ended, and nothing else. -/
theorem doneLine_inj : doneLine job status = doneLine job' status' ↔
    job.pid = job'.pid ∧ status = status' := by
  constructor
  · intro h
    have hlist := (doneLine_toList job status).symm.trans
      ((congrArg String.toList h).trans (doneLine_toList job' status'))
    obtain ⟨hpid, htext⟩ := append_space_inj (space_notMem_toString _) (space_notMem_toString _)
      (List.append_cancel_left hlist)
    exact ⟨toString_injective (String.toList_inj.mp hpid),
      Status.text_injective ((String.append_right_inj _).mp (String.toList_inj.mp htext))⟩
  · rintro ⟨hpid, rfl⟩
    unfold doneLine
    rw [hpid]

theorem startedLine_ne_doneLine : startedLine pid ≠ doneLine job status := by
  intro h
  have hlist := (startedLine_toList pid).symm.trans
    ((congrArg String.toList h).trans (doneLine_toList job status))
  have hi : "is ".toList.head? = some 'i' := by decide
  have hhead := (head_append hi _).symm.trans
    (congrArg List.head? (List.append_cancel_left hlist))
  cases hdigits : (toString job.pid).toList with
  | nil =>
    rw [hdigits] at hhead
    exact absurd (Option.some.inj hhead) (by decide)
  | cons c rest =>
    rw [hdigits] at hhead
    have hmem : 'i' ∈ (toString job.pid).toList := by
      rw [hdigits, Option.some.inj hhead]
      exact List.mem_cons_self
    exact absurd (mem_toString hmem) (by decide)

def IsAboutJob (text : String) : Prop :=
  text.toList.head? = some 'b'

theorem startedLine_isAboutJob (pid : Pid) : IsAboutJob (startedLine pid) :=
  head_append (by decide) _

theorem doneLine_isAboutJob (job : Job) (status : Status) : IsAboutJob (doneLine job status) :=
  head_append (head_append (head_append (by decide) _) _) _

private theorem not_isAboutJob_of_head {text : String} {c : Char} (h : text.toList.head? = some c)
    (hc : c ≠ 'b') : ¬ IsAboutJob text :=
  fun hb => hc (Option.some.inj (h.symm.trans hb))

theorem not_isAboutJob_complaint (message : String) : ¬ IsAboutJob (complaint message) :=
  not_isAboutJob_of_head (c := 's') (head_append (by decide) _) (by decide)

theorem not_isAboutJob_text (status : Status) : ¬ IsAboutJob status.text := by
  cases status with
  | exited code => exact not_isAboutJob_of_head (c := 'e') (head_append (by decide) _) (by decide)
  | signaled signal =>
    exact not_isAboutJob_of_head (c := 't') (head_append (by decide) _) (by decide)

theorem not_isAboutJob_announcement (mode : Mode) : ¬ IsAboutJob mode.announcement := by
  cases mode <;> exact not_isAboutJob_of_head (c := 'E') (by decide) (by decide)

def IsAnnouncing (text : String) : Prop :=
  text.toList.head? = some 'E'

theorem isAnnouncing_announcement (mode : Mode) : IsAnnouncing mode.announcement := by
  unfold IsAnnouncing
  cases mode <;> decide

theorem IsAboutJob.not_isAnnouncing {text : String} (h : IsAboutJob text) : ¬ IsAnnouncing text :=
  fun ha => absurd (Option.some.inj (h.symm.trans ha)) (by decide)

theorem not_isAnnouncing_complaint (message : String) : ¬ IsAnnouncing (complaint message) :=
  fun ha => absurd (Option.some.inj ((head_append (c := 's') (by decide) _).symm.trans ha)) (by decide)

theorem not_isAnnouncing_text (status : Status) : ¬ IsAnnouncing status.text := by
  intro ha
  cases status with
  | exited code =>
    exact absurd (Option.some.inj ((head_append (c := 'e') (by decide) _).symm.trans ha)) (by decide)
  | signaled signal =>
    exact absurd (Option.some.inj ((head_append (c := 't') (by decide) _).symm.trans ha)) (by decide)

/-- The text is a line: it is not broken into several. -/
def IsLine (text : String) : Prop :=
  '\n' ∉ text.toList

instance (text : String) : Decidable (IsLine text) :=
  inferInstanceAs (Decidable (¬ _))

private theorem isLine_append {first second : String} (hf : IsLine first) (hs : IsLine second) :
    IsLine (first ++ second) := by
  rw [IsLine, String.toList_append, List.mem_append]
  exact fun h => h.elim hf hs

private theorem isLine_toString (a : Int) : IsLine (toString a) := by
  intro h
  simpa using mem_toString h

theorem isLine_text (status : Status) : IsLine status.text := by
  cases status with
  | exited code => exact isLine_append (by decide) (isLine_toString code)
  | signaled signal => exact isLine_append (by decide) (isLine_toString signal)

theorem isLine_startedLine (pid : Pid) : IsLine (startedLine pid) :=
  isLine_append (by decide) (isLine_toString pid)

theorem isLine_doneLine (job : Job) (status : Status) : IsLine (doneLine job status) :=
  isLine_append (isLine_append (isLine_append (by decide) (isLine_toString job.pid)) (by decide))
    (isLine_text status)

theorem isLine_announcement (mode : Mode) : IsLine mode.announcement := by
  cases mode <;> decide

theorem isLine_complaint {message : String} (h : IsLine message) : IsLine (complaint message) :=
  isLine_append (by decide) h

theorem isLine_parseError (e : ParseError) : IsLine e.message := by
  cases e with
  | missingTarget direction => cases direction <;> decide
  | missingCommand => decide
  | lineTooLong => decide
  | tooManyArguments => decide

theorem isLine_nulInArgument {line : String} {pid : UInt32} {command : Command}
    (h : parse line pid = .ok (some command)) :
    IsLine (CommandError.nulInArgument command.name).message := by
  have hname : command.name ∈ command.argv := by
    obtain ⟨first, rest, hargv⟩ := List.exists_cons_of_ne_nil (argv_ne_nil_of_parse h)
    rw [Command.name, hargv]
    exact List.mem_cons_self
  exact isLine_append (blank_notMem_of_parse h hname (by decide)) (by decide)

theorem isLine_spawn (fault : Fault) : IsLine (CommandError.spawn fault).message := by
  refine isLine_append (by decide) ?_
  cases fault <;> decide

theorem isLine_wait (pid : Pid) (fault : Fault) : IsLine (CommandError.wait pid fault).message := by
  refine isLine_append (isLine_append (isLine_append (by decide) (isLine_toString pid)) (by decide))
    ?_
  cases fault <;> decide

end Session

end JobShell
