import FormRules.Query.Builtin
import FormRules.Query.Move
import FormRules.Query.Prelude

/-!
# Running filters

The outputs of a filter for an input.  Filters are run down to a bounded depth
of calls; a filter may also be run for its places, or change its places.
-/

namespace FormRules.Query

/-! ## Environments -/

/-- The meaning of a name; a closure keeps the names of the place where it was written. -/
inductive Binding where
  | filter (name : String) (params : List Param) (body : Term)
  | closure (name : String) (body : Term) (env : List Binding)
  | value (name : String) (d : Datum)
  | label (name : String) (id : Nat)

abbrev Env := List Binding

namespace Env

def filter? (name : String) (arity : Nat) : Env → Option (Binding × Env)
  | [] => none
  | .filter n ps body :: env =>
    if n = name && ps.length = arity then some (.filter n ps body, .filter n ps body :: env)
    else filter? name arity env
  | .closure n body inner :: env =>
    if n = name && arity = 0 then some (.closure n body inner, env) else filter? name arity env
  | _ :: env => filter? name arity env

def value? (name : String) : Env → Option Datum
  | [] => none
  | .value n d :: env => if n = name then some d else value? name env
  | _ :: env => value? name env

def label? (name : String) : Env → Option Nat
  | [] => none
  | .label n id :: env => if n = name then some id else label? name env
  | _ :: env => label? name env

def initial : Env :=
  derived.map fun d => .filter d.1 d.2.1 d.2.2

end Env

/-! ## Accumulation -/

/-- The state behind all steps; a step with many outcomes gives as many states. -/
def accumulate (step : Env → Datum → Yield Datum) : Yield Env → Datum → Yield Datum
  | .done, state => Results.value state
  | .next (.error e) _, _ => Results.fault e
  | .next (.ok env) rest, state =>
    Results.bind (step env state) (accumulate step (rest ()))

def accumulateEach (step extract : Env → Datum → Yield Datum) : Yield Env → Datum → Yield Datum
  | .done, _ => .done
  | .next (.error e) _, _ => Results.fault e
  | .next (.ok env) rest, state =>
    Results.bind (step env state) fun s =>
      (extract env s).append fun _ => accumulateEach step extract (rest ()) s

/-! ## Basic filters with filters as arguments -/

/-- The numbers from one on in steps up to a bound, which is left out. -/
def countUp : Nat → Datum → Datum → Datum → Yield Datum
  | 0, _, _, _ => Results.fault .exhausted
  | fuel + 1, first, stop, step =>
    let goesOn : Bool := match step.order (.int 0) with
      | .gt => first.order stop == .lt
      | .lt => first.order stop == .gt
      | .eq => first.order stop != .eq
    if goesOn then
      .next (.ok first) fun _ =>
        match Datum.calculate .add first step with
        | .ok next => countUp fuel next stop step
        | .error e => Results.fault (.thrown e)
    else .done

def countLimit : Nat := 4611686018427387904

def sortedByKey (xs : List (List Datum × Datum)) : List (List Datum × Datum) :=
  xs.mergeSort fun a b => (Datum.array a.1).order (.array b.1) != .gt

def groups : List (List Datum × Datum) → List (List Datum × List Datum)
  | [] => []
  | (key, x) :: rest =>
    match groups rest with
    | (k, xs) :: more =>
      if (Datum.array key).same (.array k) then (key, x :: xs) :: more
      else (key, [x]) :: (k, xs) :: more
    | [] => [(key, [x])]

def byKey (name : String) (xs : List (List Datum × Datum)) : Datum :=
  let sorted := sortedByKey xs
  match name with
  | "sort_by" => .array (sorted.map Prod.snd)
  | "group_by" => .array ((groups sorted).map fun g => .array g.2)
  | "min_by" => (sorted.head?.map Prod.snd).getD .null
  | _ => (sorted.getLast?.map Prod.snd).getD .null

/-- What is thrown where a filter leads to no place. -/
def noPlace (d : Datum) : Datum :=
  .text ("invalid path expression with input " ++ d.toText)

def Move.ofKey (key : Datum) : Move :=
  .index key false

/-! ## Running -/

mutual

/-- The outputs of a filter for an input. -/
def eval : Nat → Env → Term → Place → Yield Place
  | 0, _, _, _ => Results.fault .exhausted
  | fuel + 1, env, t, p =>
    let free (s : Yield Datum) : Yield Place := Results.bind s fun d => Results.value (.free d)
    let data (t : Term) : Yield Datum := Yield.data (eval fuel env t (.free p.value))
    match t with
    | .identity => Results.value p
    | .descendants => (p.descend (2 * p.value.size)).flatMap Results.value
    | .number text => free (Results.value (Datum.ofLiteral text))
    | .text format parts => free (evalText fuel env format parts [] p.value)
    | .collect none => free (Results.value (.array []))
    | .collect (some body) =>
      match Results.values (data body) with
      | .ok ds => free (Results.value (.array ds))
      | .error e => Results.fault e
    | .object entries => free (evalObject fuel env entries [] p.value)
    | .negate body => free (Results.bind (data body) fun d => Results.ofExcept d.opposite)
    | .pipe a b => Results.bind (eval fuel env a p) (eval fuel env b)
    | .both a b => (eval fuel env a p).append fun _ => eval fuel env b p
    | .alternative a b =>
      let truths := (eval fuel env a p).filterMap fun
        | .ok q => if q.value.isTrue then some (.ok q) else none
        | .error e => some (.error e)
      match truths with
      | .done => eval fuel env b p
      | .next q rest => .next q rest
    | .or a b =>
      free (Results.bind (data a) fun x =>
        if x.isTrue then Results.value (.bool true)
        else Results.bind (data b) fun y => Results.value (.bool y.isTrue))
    | .and a b =>
      free (Results.bind (data a) fun x =>
        if x.isTrue then Results.bind (data b) fun y => Results.value (.bool y.isTrue)
        else Results.value (.bool false))
    | .arithmetic op a b =>
      free (Results.bind (data a) fun x =>
        Results.bind (data b) fun y => Results.ofExcept (Datum.calculate op x y))
    | .compare op a b =>
      free (Results.bind (data a) fun x =>
        Results.bind (data b) fun y => Results.value (.bool (Datum.satisfies op x y)))
    | .assign .update target value =>
      free (change fuel env target
        (fun d => Yield.data (eval fuel env value (.free d))) p.value)
    | .assign how target value =>
      free (Results.bind (data value) fun v =>
        change fuel env target (fun d =>
          match how with
          | .arithmetic op => Results.ofExcept (Datum.calculate op d v)
          | .alternative => Results.value (if d.isTrue then d else v)
          | _ => Results.value v) p.value)
    | .bind source pattern body =>
      Results.bind (bindEach fuel env source pattern p.value) fun inner =>
        eval fuel inner body p
    | .label name body =>
      (eval fuel (.label name fuel :: env) body p).before fun
        | .error (.left id) => id = fuel
        | _ => false
    | .leave name => Results.fault (.left ((env.label? name).getD 0))
    | .reduce source pattern start update =>
      free (Results.bind (data start) fun s =>
        accumulate (fun inner d => Yield.data (eval fuel inner update (.free d)))
          (bindEach fuel env source pattern p.value) s)
    | .foreach source pattern start update extract =>
      free (Results.bind (data start) fun s =>
        accumulateEach (fun inner d => Yield.data (eval fuel inner update (.free d)))
          (fun inner d =>
            match extract with
            | some t => Yield.data (eval fuel inner t (.free d))
            | none => Results.value d)
          (bindEach fuel env source pattern p.value) s)
    | .branch condition a b =>
      Results.bind (data condition) fun x => eval fuel env (if x.isTrue then a else b) p
    | .attempt body handler =>
      (eval fuel env body p).flatMap fun
        | .error (.thrown d) =>
          match handler with
          | some h => eval fuel env h (.free d)
          | none => .done
        | q => .one q
    | .define name params body rest => eval fuel (.filter name params body :: env) rest p
    | .call name args =>
      match env.filter? name args.length with
      | some (.closure _ body inner, _) => eval fuel inner body p
      | some (.filter _ params body, inner) =>
        Results.bind (bindArgs fuel env params args p.value inner) fun inner =>
          eval fuel inner body p
      | _ => special fuel env name args p
    | .variable name => Results.value (.free ((env.value? name).getD .null))
    | .path base steps =>
      Results.bind (eval fuel env base p) fun q =>
        Results.bind (moves fuel env steps p.value) fun ms => Move.applyAll ms q

/-- The outputs of a basic filter. -/
def special : Nat → Env → String → List Term → Place → Yield Place
  | 0, _, _, _, _ => Results.fault .exhausted
  | fuel + 1, env, name, args, p =>
    let free (s : Yield Datum) : Yield Place := Results.bind s fun d => Results.value (.free d)
    let data (t : Term) : Yield Datum := Yield.data (eval fuel env t (.free p.value))
    let count (t : Term) (f : Nat → Yield Place) : Yield Place :=
      Results.bind (data t) fun n =>
        match n with
        | .int i => f i.toNat
        | n => Results.fault (.thrown (n.badKind "integer"))
    match name, args with
    | "empty", [] => .done
    | "path", [f] =>
      free (Results.bind (eval fuel env f ⟨p.value, some []⟩) fun q =>
        match q.path with
        | some keys => Results.value (.array keys.reverse)
        | none => Results.fault (.thrown (noPlace p.value)))
    | "first", [f] => (eval fuel env f p).take 1
    | "last", [f] =>
      match Results.values (eval fuel env f p) with
      | .ok qs => .ofList (qs.getLast?.toList.map .ok)
      | .error e => Results.fault e
    | "limit", [n, f] => count n fun k => (eval fuel env f p).take k
    | "skip", [n, f] => count n fun k => (eval fuel env f p).drop k
    | "range", [a, b, c] =>
      free (Results.bind (data a) fun first =>
        Results.bind (data b) fun stop =>
          Results.bind (data c) fun step => countUp countLimit first stop step)
    | "getpath", [t] =>
      Results.bind (data t) fun keys =>
        match keys with
        | .array ks =>
          match Builtin.atPath p.value ks with
          | .ok d => Results.value ⟨d, p.path.map fun before => ks.reverse ++ before⟩
          | .error e => Results.fault (.thrown e)
        | d => Results.fault (.thrown (d.badKind "array"))
    | name, [f] =>
      if Builtin.specialFilters.contains (name, 1) then
        match p.value with
        | .array xs =>
          match keyed fuel env f xs with
          | .ok pairs => Results.value (.free (byKey name pairs))
          | .error e => Results.fault e
        | d => Results.fault (.thrown (d.badKind "array"))
      else
        match Builtin.ofOne? name with
        | some g => free (Results.bind (data f) fun x => Results.ofExcept (g p.value x))
        | none => .done
    | name, [] =>
      match Builtin.ofInput? name with
      | some g => free (Results.ofExcept (g p.value))
      | none => .done
    | name, [a, b] =>
      match Builtin.ofTwo? name with
      | some g =>
        free (Results.bind (data a) fun x =>
          Results.bind (data b) fun y => Results.ofExcept (g p.value x y))
      | none => .done
    | _, _ => .done

def keyed : Nat → Env → Term → List Datum → Except (Fault Datum) (List (List Datum × Datum))
  | 0, _, _, _ => .error .exhausted
  | fuel + 1, env, f, xs => xs.mapM fun x => do
    return (← Results.values (Yield.data (eval fuel env f (.free x))), x)

/-- A quoted text behind the characters that are already put together. -/
def evalText : Nat → Env → Option String → List TextPart → List Char → Datum → Yield Datum
  | 0, _, _, _, _, _ => Results.fault .exhausted
  | fuel + 1, env, format, parts, cs, d =>
    match parts with
    | [] => Results.value (Datum.ofChars cs)
    | .chars more :: parts => evalText fuel env format parts (cs ++ more) d
    | .inserted t :: parts =>
      let t := match format with
        | some name => .pipe t (.call name [])
        | none => t
      Results.bind (eval fuel env t (.free d)) fun q =>
        evalText fuel env format parts (cs ++ q.value.plainText.toList) d

/-- An object behind the members that are already there. -/
def evalObject : Nat → Env → List Entry → List (String × Datum) → Datum → Yield Datum
  | 0, _, _, _, _ => Results.fault .exhausted
  | fuel + 1, env, entries, ms, d =>
    match entries with
    | [] => Results.value (.object ms)
    | .mk key value :: entries =>
      let value := value.getD (.path .identity [.index key false])
      Results.bind (eval fuel env key (.free d)) fun k =>
        Results.bind (eval fuel env value (.free d)) fun v =>
          match k.value with
          | .text k => evalObject fuel env entries (Entries.insert k v.value ms) d
          | k => Results.fault (.thrown (k.badKind "string"))

/-- The moves of the steps of a path. -/
def moves : Nat → Env → List Step → Datum → Yield (List Move)
  | 0, _, _, _ => Results.fault .exhausted
  | fuel + 1, env, steps, d =>
    let key (t : Option Term) : Yield Datum :=
      match t with
      | some t => Yield.data (eval fuel env t (.free d))
      | none => Results.value .null
    match steps with
    | [] => Results.value []
    | .index t mark :: steps =>
      Results.bind (key (some t)) fun k =>
        Results.bind (moves fuel env steps d) fun ms => Results.value (.index k mark :: ms)
    | .range none none mark :: steps =>
      Results.bind (moves fuel env steps d) fun ms => Results.value (.each mark :: ms)
    | .range a b mark :: steps =>
      Results.bind (key a) fun first =>
        Results.bind (key b) fun last =>
          Results.bind (moves fuel env steps d) fun ms =>
            Results.value (.slice first last mark :: ms)

def bindEach : Nat → Env → Term → Pattern → Datum → Yield Env
  | 0, _, _, _, _ => Results.fault .exhausted
  | fuel + 1, env, source, pattern, d =>
    Results.bind (eval fuel env source (.free d)) fun q =>
      bindPattern fuel env pattern d q.value

def bindPattern : Nat → Env → Pattern → Datum → Datum → Yield Env
  | 0, _, _, _, _ => Results.fault .exhausted
  | fuel + 1, env, pattern, d, x =>
    match pattern with
    | .variable name => Results.value (.value name x :: env)
    | .array items => bindItems fuel env items 0 d x
    | .object members => bindMembers fuel env members d x

/-- The names that patterns give to the items of an array from a place on. -/
def bindItems : Nat → Env → List Pattern → Nat → Datum → Datum → Yield Env
  | 0, _, _, _, _, _ => Results.fault .exhausted
  | fuel + 1, env, items, k, d, x =>
    match items with
    | [] => Results.value env
    | p :: ps =>
      Results.bind (Results.ofExcept (x.index (.int k))) fun y =>
        Results.bind (bindPattern fuel env p d y) fun env =>
          bindItems fuel env ps (k + 1) d x

def bindMembers : Nat → Env → List PatternMember → Datum → Datum → Yield Env
  | 0, _, _, _, _ => Results.fault .exhausted
  | fuel + 1, env, members, d, x =>
    match members with
    | [] => Results.value env
    | .mk key p :: ms =>
      Results.bind (eval fuel env key (.free d)) fun k =>
        Results.bind (Results.ofExcept (x.index k.value)) fun y =>
          Results.bind (bindPattern fuel env p d y) fun env => bindMembers fuel env ms d x

def bindArgs : Nat → Env → List Param → List Term → Datum → Env → Yield Env
  | 0, _, _, _, _, _ => Results.fault .exhausted
  | fuel + 1, env, params, args, d, inner =>
    match params, args with
    | p :: ps, t :: ts =>
      if p.isValue then
        Results.bind (eval fuel env t (.free d)) fun q =>
          bindArgs fuel env ps ts d (.value p.name q.value :: inner)
      else bindArgs fuel env ps ts d (.closure p.name t env :: inner)
    | _, _ => Results.value inner

/-- Change a value at the places that a filter leads to. -/
def change : Nat → Env → Term → Move.Change → Datum → Yield Datum
  | 0, _, _, _, _ => Results.fault .exhausted
  | fuel + 1, env, t, f, d =>
    match t with
    | .identity => f d
    | .descendants => changeBelow fuel env f d
    | .pipe a b => change fuel env a (change fuel env b f) d
    | .both a b => Results.bind (change fuel env a f d) (change fuel env b f)
    | .alternative a b =>
      let isThere := (eval fuel env a (.free d)).filterMap fun
        | .ok q => if q.value.isTrue then some () else none
        | .error _ => some ()
      change fuel env (if isThere.head?.isSome then a else b) f d
    | .branch condition a b =>
      accumulate (fun inner x =>
          match inner with
          | .value _ truth :: _ => change fuel env (if truth.isTrue then a else b) f x
          | _ => Results.value x)
        (Results.bind (eval fuel env condition (.free d)) fun q =>
          Results.value (.value "" q.value :: env)) d
    | .bind source pattern body =>
      accumulate (fun inner x => change fuel inner body f x) (bindEach fuel env source pattern d) d
    | .attempt body _ =>
      (change fuel env body f d).flatMap fun
        | .error (.thrown _) => Results.value d
        | q => .one q
    | .define name params body rest => change fuel (.filter name params body :: env) rest f d
    | .call name args =>
      match env.filter? name args.length with
      | some (.closure _ body inner, _) => change fuel inner body f d
      | some (.filter _ params body, inner) =>
        accumulate (fun inner x => change fuel inner body f x)
          (bindArgs fuel env params args d inner) d
      | _ => changePlaces fuel env t f d
    | .path base steps =>
      change fuel env base (fun x =>
        match Results.values (moves fuel env steps d) with
        | .ok paths => .one (paths.foldlM (fun x ms => Move.changeAll f ms x) x)
        | .error e => Results.fault e) d
    | .label _ _ | .leave _ | .reduce .. | .foreach .. => changePlaces fuel env t f d
    | _ => Results.fault (.thrown (noPlace d))

/-- Change a value and everything below it, from the leaves up. -/
def changeBelow : Nat → Env → Move.Change → Datum → Yield Datum
  | 0, _, _, _ => Results.fault .exhausted
  | fuel + 1, env, f, d =>
    match (Move.each true).change (changeBelow fuel env f) d with
    | .ok x => f x
    | .error e => Results.fault e

def changePlaces : Nat → Env → Term → Move.Change → Datum → Yield Datum
  | 0, _, _, _, _ => Results.fault .exhausted
  | fuel + 1, env, t, f, d =>
    match Results.values (eval fuel env t ⟨d, some []⟩) with
    | .error e => Results.fault e
    | .ok qs =>
      match qs.mapM Place.path with
      | none => Results.fault (.thrown (noPlace d))
      | some paths =>
        .one (paths.foldlM (fun x keys =>
          Move.changeAll f (keys.reverse.map Move.ofKey) x) d)

end

end FormRules.Query
