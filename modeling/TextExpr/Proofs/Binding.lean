import TextExpr.Expr.Builtin
import TextExpr.Expr.Evaluate
import TextExpr.Expr.Host
import TextExpr.Proofs.Result

/-!
# Binding, parameter by parameter

What comes of binding the arguments of a call, said of each parameter on its own: `Param.Takes`
gives what it is bound to and `Param.Refuses` why it cannot be bound. `bindArgs_outcome` says that a
call with a wrong number of arguments is refused before anything is evaluated, and that otherwise
every parameter is bound or the first one that cannot be decides.
-/

namespace TextExpr

/-! ## One parameter -/

lemma requireKind_eq_ok {allowed : List Kind} {value result : Json} :
    requireKind allowed value = .ok result ↔ value.kind ∈ allowed ∧ result = value := by
  unfold requireKind
  by_cases h : value.kind ∈ allowed
  · simp [h, eq_comm]
  · simp [h]

lemma requireKind_eq_error {allowed : List Kind} {value : Json} {e : EvalError} :
    requireKind allowed value = .error e ↔
      value.kind ∉ allowed ∧ e = .type allowed value.kind := by
  unfold requireKind
  by_cases h : value.kind ∈ allowed
  · simp [h]
  · simp [h, eq_comm]

namespace Param

/-- What a parameter is bound to. -/
inductive Takes (c : Context) : Param → Option Json → Json → Prop
  /-- The argument as it is written. -/
  | raw (arg : Json) : Takes c .raw (some arg) arg
  /-- The value of the argument. -/
  | any {arg : Json} {value : Json} : c.value arg = .ok value →
      Takes c .any (some arg) value
  /-- The value of the argument, which is of one of the types that are asked for. -/
  | typed {allowed : List Kind} {arg : Json} {value : Json} :
      c.value arg = .ok value → value.kind ∈ allowed →
      Takes c (.typed allowed) (some arg) value
  /-- The current value as it is, in place of an absent argument. -/
  | current {param : Param} :
      (∀ allowed, param = .typed allowed → c.scope.current.kind ∈ allowed) →
      Takes c param none c.scope.current

/-- Why a parameter cannot be bound. -/
inductive Refuses (c : Context) : Param → Option Json → EvalError → Prop
  /-- The argument has no value. -/
  | any {arg : Json} {e : EvalError} : c.value arg = .error e →
      Refuses c .any (some arg) e
  /-- The argument has no value, let alone one of the types that are asked for. -/
  | typed {allowed : List Kind} {arg : Json} {e : EvalError} :
      c.value arg = .error e → Refuses c (.typed allowed) (some arg) e
  /-- The value of the argument is of another type. -/
  | kind {allowed : List Kind} {arg : Json} {value : Json} :
      c.value arg = .ok value → value.kind ∉ allowed →
      Refuses c (.typed allowed) (some arg) (.type allowed value.kind)
  /-- The current value, in place of an absent argument, is of another type. -/
  | current {allowed : List Kind} : c.scope.current.kind ∉ allowed →
      Refuses c (.typed allowed) none (.type allowed c.scope.current.kind)

variable {c : Context} {param : Param} {arg? : Option Json} {value : Json} {e : EvalError}

theorem bind_eq_ok_iff : param.bind c arg? = .ok value ↔ param.Takes c arg? value := by
  constructor
  · intro h
    cases arg? with
    | none =>
      cases param with
      | any | raw =>
        obtain rfl := Except.ok.inj h
        exact .current (by simp)
      | typed allowed =>
        obtain ⟨hkind, rfl⟩ := requireKind_eq_ok.mp h
        refine .current fun allowed' heq => ?_
        rw [← typed.inj heq]
        exact hkind
    | some arg =>
      cases param with
      | raw =>
        obtain rfl := Except.ok.inj h
        exact .raw arg
      | any => exact .any h
      | typed allowed =>
        obtain ⟨given, hgiven, hcheck⟩ := bind_eq_ok.mp h
        obtain ⟨hkind, rfl⟩ := requireKind_eq_ok.mp hcheck
        exact .typed hgiven hkind
  · intro h
    cases h with
    | raw arg => rfl
    | any heval => exact heval
    | typed heval hkind =>
      apply bind_eq_ok.mpr
      exact ⟨value, heval, requireKind_eq_ok.mpr ⟨hkind, rfl⟩⟩
    | current hkind =>
      cases param with
      | any | raw => rfl
      | typed allowed => exact requireKind_eq_ok.mpr ⟨hkind allowed rfl, rfl⟩

theorem bind_eq_error_iff : param.bind c arg? = .error e ↔ param.Refuses c arg? e := by
  constructor
  · intro h
    cases arg? with
    | none =>
      cases param with
      | any | raw => simp [Param.bind] at h
      | typed allowed =>
        obtain ⟨hkind, rfl⟩ := requireKind_eq_error.mp h
        exact .current hkind
    | some arg =>
      cases param with
      | raw => simp [Param.bind] at h
      | any => exact .any h
      | typed allowed =>
        rcases bind_eq_error.mp h with heval | ⟨given, hgiven, hcheck⟩
        · exact .typed heval
        · obtain ⟨hkind, rfl⟩ := requireKind_eq_error.mp hcheck
          exact .kind hgiven hkind
  · intro h
    cases h with
    | any heval => exact heval
    | typed heval => exact bind_eq_error.mpr (Or.inl heval)
    | kind heval hkind =>
      apply bind_eq_error.mpr
      exact Or.inr ⟨_, heval, requireKind_eq_error.mpr ⟨hkind, rfl⟩⟩
    | current hkind => exact requireKind_eq_error.mpr ⟨hkind, rfl⟩

lemma Takes.not_refuses (h : param.Takes c arg? value) : ¬param.Refuses c arg? e := by
  intro hrefuses
  have hok := bind_eq_ok_iff.mpr h
  rw [bind_eq_error_iff.mpr hrefuses] at hok
  simp at hok

/-- A wrong number of arguments is never the fault of a parameter, only of a call in its
argument. -/
lemma Refuses.of_arity {name : String} {expected : Arity} {found : Nat}
    (h : param.Refuses c arg? (.arity name expected found)) :
    ∃ arg, arg? = some arg ∧ c.value arg = .error (.arity name expected found) := by
  cases h with
  | any heval | typed heval => exact ⟨_, rfl, heval⟩

end Param

/-- A parameter is bound to the value of its argument, whatever else could be evaluated. -/
lemma Param.bind_context_congr {c d : Context} {arg? : Option Json} (param : Param)
    (hscope : d.scope = c.scope) (hvalue : ∀ arg ∈ arg?, d.value arg = c.value arg) :
    param.bind d arg? = param.bind c arg? := by
  cases arg? with
  | none => cases param <;> simp only [Param.bind, hscope]
  | some arg =>
    have harg := hvalue arg rfl
    cases param <;> simp only [Param.bind, harg]

/-! ## All parameters -/

/-- The values with another one in a place. -/
def Bound.set {params : List Param} (bound : Bound params) (i : Nat) (value : Json) :
    Bound params where
  values := bound.values.set i value
  length_values := by rw [List.length_set, bound.length_values]

/-- Each parameter is bound to the value in its place. -/
structure AllBound (c : Context) (params : List Param) (args : List Json)
    (values : List Json) : Prop where
  /-- There is one value for each parameter. -/
  length : values.length = params.length
  /-- The values are in the order of the parameters. -/
  takes : ∀ (i : Nat) (param : Param), params[i]? = some param →
    ∃ value, values[i]? = some value ∧ param.Takes c args[i]? value

/-- The parameter at an index is the first one that cannot be bound, for the given reason. -/
structure FirstRefused (c : Context) (params : List Param) (args : List Json) (i : Nat)
    (e : EvalError) : Prop where
  /-- It cannot be bound. -/
  refuses : ∃ param, params[i]? = some param ∧ param.Refuses c args[i]? e
  /-- All parameters before it can. -/
  earlier : ∀ j < i, ∀ param : Param, params[j]? = some param →
    ∃ value, param.Takes c args[j]? value

section

variable {c d : Context} {params : List Param} {args given : List Json}

lemma bindEach_cons (param : Param) (params : List Param) (args : List Json) :
    bindEach c (param :: params) args = do
      let value ← param.bind c args[0]?
      let later ← bindEach c params args.tail
      return later.cons value := by
  rw [bindEach, List.head?_eq_getElem?]

/-- Arguments that each parameter is bound to alike are bound alike. -/
lemma bindEach_congr (h : ∀ (i : Nat) (param : Param), params[i]? = some param →
    param.bind c args[i]? = param.bind d given[i]?) :
    bindEach c params args = bindEach d params given := by
  induction params generalizing args given with
  | nil => rfl
  | cons param params ih =>
    have hfirst := h 0 param rfl
    have hlater : bindEach c params args.tail = bindEach d params given.tail := by
      apply ih
      intro i later hi
      rw [List.getElem?_tail, List.getElem?_tail]
      exact h (i + 1) later hi
    rw [bindEach_cons, bindEach_cons, hfirst, hlater]

/-- All parameters are bound if each of them is. -/
theorem bindEach_eq_ok_iff {bound : Bound params} :
    bindEach c params args = .ok bound ↔ AllBound c params args bound.values := by
  induction params generalizing args with
  | nil =>
    constructor
    · intro h
      obtain rfl := Except.ok.inj h
      exact ⟨rfl, by simp⟩
    · intro h
      have hnil : Bound.nil = bound := Bound.ext (List.eq_nil_of_length_eq_zero h.length).symm
      rw [← hnil]
      rfl
  | cons param params ih =>
    simp only [bindEach_cons, bind_eq_ok, pure_eq_ok, ih, Param.bind_eq_ok_iff]
    constructor
    · rintro ⟨value, hvalue, later, hlater, rfl⟩
      refine ⟨(later.cons value).length_values, fun i other hi => ?_⟩
      cases i with
      | zero =>
        obtain rfl := Option.some.inj hi
        exact ⟨value, rfl, hvalue⟩
      | succ i =>
        obtain ⟨result, hresult, htakes⟩ := hlater.takes i other hi
        rw [List.getElem?_tail] at htakes
        exact ⟨result, hresult, htakes⟩
    · intro h
      obtain ⟨values, hlength⟩ := bound
      obtain ⟨value, hvalue, htakes⟩ := h.takes 0 param rfl
      cases values with
      | nil => simp at hvalue
      | cons first later =>
        obtain rfl := Option.some.inj hvalue
        rw [List.length_cons, List.length_cons, Nat.add_right_cancel_iff] at hlength
        refine ⟨first, htakes, ⟨later, hlength⟩, ⟨hlength, fun i other hi => ?_⟩, rfl⟩
        obtain ⟨result, hresult, htakes'⟩ := h.takes (i + 1) other hi
        rw [List.getElem?_tail]
        exact ⟨result, hresult, htakes'⟩

/-- The first parameter that cannot be bound gives the error. -/
theorem bindEach_eq_error_iff {e : EvalError} :
    bindEach c params args = .error e ↔ ∃ i, FirstRefused c params args i e := by
  induction params generalizing args with
  | nil =>
    constructor
    · intro h
      simp [bindEach] at h
    · rintro ⟨i, ⟨param, hparam, -⟩, -⟩
      simp at hparam
  | cons param params ih =>
    have hpure : ∀ bound : Bound (param :: params),
        (pure bound : Except EvalError (Bound (param :: params))) ≠ .error e := by
      intro bound h
      simp [pure, Except.pure] at h
    simp only [bindEach_cons, bind_eq_error, hpure, ih, Param.bind_eq_error_iff,
      Param.bind_eq_ok_iff, and_false, exists_false, or_false]
    constructor
    · rintro (hrefuses | ⟨value, hvalue, i, hrefused⟩)
      · exact ⟨0, ⟨param, rfl, hrefuses⟩, by omega⟩
      · obtain ⟨other, hother, hrefuses⟩ := hrefused.refuses
        rw [List.getElem?_tail] at hrefuses
        refine ⟨i + 1, ⟨other, hother, hrefuses⟩, fun j hj earlier hearlier => ?_⟩
        cases j with
        | zero =>
          obtain rfl := Option.some.inj hearlier
          exact ⟨value, hvalue⟩
        | succ j =>
          rw [← List.getElem?_tail]
          exact hrefused.earlier j (by omega) earlier hearlier
    · rintro ⟨i, hrefused⟩
      obtain ⟨other, hother, hrefuses⟩ := hrefused.refuses
      cases i with
      | zero =>
        obtain rfl := Option.some.inj hother
        exact Or.inl hrefuses
      | succ i =>
        obtain ⟨value, hvalue⟩ := hrefused.earlier 0 (by omega) param rfl
        rw [← List.getElem?_tail] at hrefuses
        refine Or.inr ⟨value, hvalue, i, ⟨other, hother, hrefuses⟩, fun j hj earlier hearlier => ?_⟩
        rw [List.getElem?_tail]
        exact hrefused.earlier (j + 1) (by omega) earlier hearlier

/-- No parameter is refused on account of another one. -/
lemma exists_bindEach_iff : (∃ bound, bindEach c params args = .ok bound) ↔
    ∀ (i : Nat) (param : Param), params[i]? = some param →
      ∃ value, param.Takes c args[i]? value := by
  constructor
  · rintro ⟨bound, hbound⟩ i param hparam
    obtain ⟨value, -, htakes⟩ := (bindEach_eq_ok_iff.mp hbound).takes i param hparam
    exact ⟨value, htakes⟩
  · intro h
    cases hbound : bindEach c params args with
    | ok bound => exact ⟨bound, rfl⟩
    | error e =>
      obtain ⟨i, ⟨param, hparam, hrefuses⟩, -⟩ := bindEach_eq_error_iff.mp hbound
      obtain ⟨value, htakes⟩ := h i param hparam
      exact absurd hrefuses htakes.not_refuses

/-- What comes after the first parameter that cannot be bound does not count, nor does what it would
evaluate to. -/
lemma FirstRefused.of_take {i : Nat} {e : EvalError} (h : FirstRefused c params args i e)
    (hscope : d.scope = c.scope) (hsame : given.take (i + 1) = args.take (i + 1))
    (hvalue : ∀ arg ∈ args.take (i + 1), d.value arg = c.value arg) :
    FirstRefused d params given i e := by
  have hbind : ∀ j ≤ i, ∀ param : Param, param.bind d given[j]? = param.bind c args[j]? := by
    intro j hj param
    have hget : given[j]? = args[j]? := by
      rw [← List.getElem?_take_of_lt (show j < i + 1 by omega), hsame,
        List.getElem?_take_of_lt (by omega)]
    rw [hget]
    refine param.bind_context_congr hscope fun arg harg => hvalue arg ?_
    rw [Option.mem_def, ← List.getElem?_take_of_lt (show j < i + 1 by omega)] at harg
    exact List.mem_of_getElem? harg
  obtain ⟨param, hparam, hrefuses⟩ := h.refuses
  refine ⟨⟨param, hparam, ?_⟩, fun j hj earlier hearlier => ?_⟩
  · rw [← Param.bind_eq_error_iff, hbind i (Nat.le_refl i)]
    exact Param.bind_eq_error_iff.mpr hrefuses
  · obtain ⟨value, htakes⟩ := h.earlier j hj earlier hearlier
    refine ⟨value, ?_⟩
    rw [← Param.bind_eq_ok_iff, hbind j (by omega)]
    exact Param.bind_eq_ok_iff.mpr htakes

/-- Another argument for a parameter that takes it as it is written changes this value only. -/
lemma bindEach_set_raw {i : Nat} (hraw : params[i]? = some .raw) (hi : i < args.length)
    (arg : Json) :
    bindEach c params (args.set i arg) = (bindEach c params args).map (·.set i arg) := by
  induction params generalizing i args with
  | nil => simp at hraw
  | cons param params ih =>
    cases args with
    | nil => simp at hi
    | cons first args =>
      cases i with
      | zero =>
        obtain rfl := Option.some.inj hraw
        rw [List.set_cons_zero, bindEach_cons, bindEach_cons, List.tail_cons, List.tail_cons]
        show (bindEach c params args >>= fun later => pure (later.cons arg)) =
          (bindEach c params args >>= fun later => pure (later.cons first)).map _
        cases bindEach c params args <;> rfl
      | succ i =>
        rw [List.length_cons, Nat.add_lt_add_iff_right] at hi
        rw [List.set_cons_succ, bindEach_cons, bindEach_cons, List.tail_cons, List.tail_cons,
          ih hraw hi]
        show (param.bind c (some first) >>= _) = (param.bind c (some first) >>= _).map _
        cases param.bind c (some first) with
        | error e => rfl
        | ok value => cases bindEach c params args <;> rfl

/-! ## The number of arguments -/

/-- A wrong number of arguments is an error whatever the arguments are. -/
lemma bindArgs_of_not_fits (c : Context) (name : String)
    (h : params.length < args.length ∨ args.length + 1 < params.length) :
    bindArgs c name params args =
      .error (.arity name (.lastOptional params.length) args.length) := by
  rw [bindArgs, if_pos h]

/-- The last argument is optional, and no other. -/
lemma bindArgs_of_fits (c : Context) (name : String) (hmost : args.length ≤ params.length)
    (hleast : params.length ≤ args.length + 1) :
    bindArgs c name params args = bindEach c params args := by
  rw [bindArgs, if_neg (by omega)]

lemma bindArgs_set_raw (c : Context) (name : String) {i : Nat} (hraw : params[i]? = some .raw)
    (hi : i < args.length) (arg : Json) :
    bindArgs c name params (args.set i arg) =
      (bindArgs c name params args).map (·.set i arg) := by
  unfold bindArgs
  rw [List.length_set]
  split
  · rfl
  · exact bindEach_set_raw hraw hi arg

/-- Which numbers of arguments are refused can be told without looking at the arguments. -/
lemma bindArgs_arity_iff (name : String) (params : List Param) (count : Nat) :
    (∀ (c : Context) (given : List Json), given.length = count →
        bindArgs c name params given =
          .error (.arity name (.lastOptional params.length) count)) ↔
      params.length < count ∨ count + 1 < params.length := by
  constructor
  · intro h
    by_contra hfits
    -- where nothing can be evaluated, but for another reason
    let c : Context := ⟨.empty, [], fun _ _ => .error (.parse "")⟩
    have hlength : (List.replicate count Json.null).length = count := List.length_replicate
    have harity := h c (List.replicate count .null) hlength
    rw [bindArgs_of_fits _ _ (by omega) (by omega), bindEach_eq_error_iff] at harity
    obtain ⟨i, ⟨param, -, hrefuses⟩, -⟩ := harity
    obtain ⟨arg, -, hvalue⟩ := hrefuses.of_arity
    simp [c, Context.value] at hvalue
  · intro h c given hgiven
    subst hgiven
    exact bindArgs_of_not_fits c name h

end

/-- Binding the arguments of a call, in any context. A wrong number of arguments is refused whatever
they are and whatever they would evaluate to. With a right number of arguments the call is bound if
every parameter is, to the values in the order of the parameters, and otherwise the first parameter
that cannot be bound decides, whatever the arguments after it are and whatever they would evaluate
to. Another expression for a parameter that takes it as it is written changes no more than the value
of this parameter. -/
theorem bindArgs_outcome (c : Context) (name : String) (params : List Param) (args : List Json) :
    ((∀ (d : Context) (given : List Json), given.length = args.length →
        bindArgs d name params given =
          .error (.arity name (.lastOptional params.length) args.length)) ↔
      params.length < args.length ∨ args.length + 1 < params.length) ∧
    (args.length ≤ params.length → params.length ≤ args.length + 1 →
      (∀ bound, bindArgs c name params args = .ok bound ↔
        AllBound c params args bound.values) ∧
      ((∃ bound, bindArgs c name params args = .ok bound) ↔
        ∀ (i : Nat) (param : Param), params[i]? = some param →
          ∃ value, param.Takes c args[i]? value) ∧
      (∀ e, bindArgs c name params args = .error e ↔ ∃ i, FirstRefused c params args i e) ∧
      ∀ i e, FirstRefused c params args i e →
        ∀ (d : Context) (given : List Json), d.scope = c.scope → given.length = args.length →
          given.take (i + 1) = args.take (i + 1) →
          (∀ arg ∈ args.take (i + 1), d.value arg = c.value arg) →
            bindArgs d name params given = .error e) ∧
    ∀ (i : Nat) (expr : Json), params[i]? = some .raw → i < args.length →
      bindArgs c name params (args.set i expr) =
        (bindArgs c name params args).map (·.set i expr) := by
  refine ⟨bindArgs_arity_iff name params args.length, fun hmost hleast => ?_, ?_⟩
  · rw [bindArgs_of_fits c name hmost hleast]
    refine ⟨fun bound => bindEach_eq_ok_iff, exists_bindEach_iff,
      fun e => bindEach_eq_error_iff, ?_⟩
    intro i e hrefused d given hscope hlength hsame hvalue
    rw [bindArgs_of_fits d name (by omega) (by omega)]
    exact bindEach_eq_error_iff.mpr ⟨i, hrefused.of_take hscope hsame hvalue⟩
  · intro i expr hraw hi
    exact bindArgs_set_raw c name hraw hi expr

/-- The second of three arguments has a value of the wrong type. With a third one that cannot be
evaluated the error is the same, and so it is with another first one, which is not evaluated. Where
the third argument is absent, the current value takes its place. -/
theorem bindArgs_outcome_wrongType :
    let registry := Builtin.registry.register (Host.constant "$yes" (.bool true))
    let c := registry.context (.withValue (.str "ab"))
    let params : List Param := [.raw, .typed [.string], .any]
    let wrong : Json := .arr [.str "$yes"]
    let failing : Json := .arr [.str "$literal"]
    bindArgs c "$join" params [failing, wrong, .null] = .error (.type [.string] .boolean) ∧
      bindArgs c "$join" params [failing, wrong, failing] = .error (.type [.string] .boolean) ∧
      bindArgs c "$join" params [.null, wrong, .null] = .error (.type [.string] .boolean) ∧
      bindArgs c "$join" params [failing, .str "cd"] =
        .ok ⟨[failing, .str "cd", .str "ab"], rfl⟩ := by
  intro registry c params wrong failing
  have hyes : c.value wrong = .ok (.bool true) :=
    evaluate_of_evaluateWithin 1 (by simp) rfl
  have hstring : c.value (.str "cd") = .ok (.str "cd") := evaluate_eq _ _ _
  have hkind : (Json.bool true).kind ∉ [Kind.string] := by decide
  obtain ⟨-, hfits, hset⟩ := bindArgs_outcome c "$join" params [failing, wrong, .null]
  obtain ⟨-, -, herror, hlater⟩ := hfits (by decide) (by decide)
  have hrefused : FirstRefused c params [failing, wrong, .null] 1 (.type [.string] .boolean) := by
    refine ⟨⟨_, rfl, .kind hyes hkind⟩, fun j hj param hparam => ?_⟩
    obtain rfl : j = 0 := by omega
    obtain rfl := Option.some.inj hparam
    exact ⟨failing, .raw _⟩
  have hwrong := (herror _).mpr ⟨1, hrefused⟩
  refine ⟨hwrong, hlater 1 _ hrefused c _ rfl rfl rfl fun _ _ => rfl, ?_, ?_⟩
  · have hraw := hset 0 .null rfl (by decide)
    rw [hwrong] at hraw
    exact hraw
  · obtain ⟨-, hfits', -⟩ := bindArgs_outcome c "$join" params [failing, .str "cd"]
    obtain ⟨hok, -⟩ := hfits' (by decide) (by decide)
    refine (hok _).mpr ⟨rfl, fun i param hparam => ?_⟩
    match i with
    | 0 =>
      obtain rfl := Option.some.inj hparam
      exact ⟨_, rfl, .raw _⟩
    | 1 =>
      obtain rfl := Option.some.inj hparam
      exact ⟨_, rfl, .typed hstring (by decide)⟩
    | 2 =>
      obtain rfl := Option.some.inj hparam
      exact ⟨_, rfl, .current (by simp)⟩
    | i + 3 => simp [params] at hparam

end TextExpr
