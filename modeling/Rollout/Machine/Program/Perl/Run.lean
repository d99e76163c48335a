import Rollout.Machine.Program.Perl.Step

/-!
How scripts are carried out: the values of expressions, the places they stand for, what functions and statements do.
-/

namespace Rollout.Program.Perl

open Unix

mutual

/-- The values of an expression, as many as are wanted. -/
def values : Nat → Want → Expr → Doing (List Value)
  | 0, _, _ => overdue
  | fuel + 1, want, e => do
    match want with
    | .many => items fuel e
    | .one => return [← scalar fuel e]
    | .nothing => match e with
      | .call .. => invoke fuel .nothing e
      | .callValue .. => invoke fuel .nothing e
      | .method .. => invoke fuel .nothing e
      | .mapping m f e => mapped fuel m f e
      | .doBlock b => inBlock (blockValues fuel .nothing b)
      | .and a b => do
        if (← scalar fuel a).isTrue then values fuel .nothing b else return []
      | .or a b => do
        if (← scalar fuel a).isTrue then return [] else values fuel .nothing b
      | .choice c a b => do
        if (← scalar fuel c).isTrue then values fuel .nothing a else values fuel .nothing b
      | .list es => do
        es.forM fun e => do
          let _ ← values fuel .nothing e
        return []
      | e => return [← scalar fuel e]
termination_by structural x => x

/-- The value of an expression. -/
def scalar : Nat → Expr → Doing Value
  | 0, _ => overdue
  | fuel + 1, e => do
    match e with
    | .value v => return v
    | .joined es => do
      let ts ← es.mapM fun e => do textOf (← scalar fuel e)
      return .text ts.flatten
    | .listText e => do
      let ts ← (← items fuel e).mapM textOf
      return .text (Text.join (← globalValue "\"").toText ts)
    | .variable v => match v.sigil with
      | .scalar => scalarVariable v
      | .array => do
        refreshMatch v
        return .ofNat (← cellsOf (← idOf v)).size
      | .hash => do
        refreshMatch v
        return .ofNat (← hashAt (← idOf v)).size
      | .code => do
        let vs ← callNamed fuel v.name none .one
        return vs.getLast?.getD .absent
      | .handle => return .reference .handle (← idOf v)
    | .deref s inner => match s with
      | .scalar => do valueAt (← referent fuel .scalar false inner)
      | .array => do return .ofNat (← cellsOf (← referent fuel .array false inner)).size
      | .hash => do return .ofNat (← hashAt (← referent fuel .hash false inner)).size
      | .handle => do return .reference .handle (← referent fuel .handle false inner)
      | .code => do
        let vs ← invoke fuel .one (.callValue inner (some []))
        return vs.getLast?.getD .absent
    | .element a i => do
      let list ← listOf fuel a
      let i := (← scalar fuel i).whole
      match ← elementPlace? list i with
      | some cell => valueAt cell
      | none => return .absent
    | .field h k => do
      let hash ← hashOf fuel h
      let key ← textOf (← scalar fuel k)
      fieldValue hash key
    | .lastIndex a => do return .int (((← cellsOf (← listOf fuel a)).size : Int) - 1)
    | .declare _ vs isList => do
      let all ← cells fuel e
      if isList then return .ofNat vs.length
      match all with
      | [cell] => valueAt cell
      | all => return .ofNat all.length
    | .localized inner => do
      if isPlural inner then return .ofNat (← cells fuel e).length
      valueAt (← place fuel e)
    | .assign op a b => do
      if isPlural a && op.isNone then
        let (_, n) ← assignList fuel a b
        return .ofNat n
      valueAt (← assignOne fuel op a b)
    | .binary op a b => do
      let x ← scalar fuel a
      let y ← scalar fuel b
      operate op x y
    | .repeatedList a b => do
      let x ← scalar fuel a
      operate .repeated x (← scalar fuel b)
    | .and a b => do
      let x ← scalar fuel a
      if x.isTrue then scalar fuel b else return x
    | .or a b => do
      let x ← scalar fuel a
      if x.isTrue then return x else scalar fuel b
    | .orDefined a b => do
      let x ← scalar fuel a
      if x.isDefined then return x else scalar fuel b
    | .xor a b => do
      let x ← scalar fuel a
      return .truth (x.isTrue != (← scalar fuel b).isTrue)
    | .not e => return .truth (!(← scalar fuel e).isTrue)
    | .negative e => return negated (← scalar fuel e)
    | .complement e => return .ofNat (18446744073709551615 - bitsOf (← scalar fuel e))
    | .choice c a b => do
      if (← scalar fuel c).isTrue then scalar fuel a else scalar fuel b
    | .range spot a b => do
      let holds (e : Expr) : Doing Bool := do
        match e with
        | .value (.int n) => return (← scalarVariable ⟨.scalar, ['.']⟩).whole = n
        | e => return (← scalar fuel e).isTrue
      let count ← Doing.looking fun m => m.spans[spot]?
      let n := count.getD 0 + 1
      let starts ← if count.isSome then pure true else holds a
      if !starts then return .truth false
      if ← holds b then
        modify fun m => { m with spans := m.spans.erase spot }
        return .text (Text.ofNat n ++ "E0".toList)
      modify fun m => { m with spans := m.spans.insert spot n }
      return .ofNat n
    | .step up before e => do
      let cell ← place fuel e
      let old ← valueAt cell
      let new := old.stepped up
      setCell cell new
      if before then return new
      return match old with
        | .absent => if up then .int 0 else .absent
        | .text t => if up && countsUp t then old else old.toNumber.toValue
        | old => old
    | .reference e => do
      let vs ← references fuel e
      return vs.getLast?.getD .absent
    | .list es => do
      match es.getLast? with
      | none => return .absent
      | some e => do
        es.dropLast.forM fun e => do
          let _ ← values fuel .nothing e
        scalar fuel e
    | .newArray es => do
      let vs ← items fuel (.list es)
      return .reference .array (← newList (← newCells vs).toArray)
    | .newHash es => do
      let vs ← items fuel (.list es)
      let h ← newHash
      for (k, v) in inPairs vs do
        setField h (← textOf k) v
      return .reference .hash h
    | .newCode body => do
      let m ← get
      return .reference .code (← newCode ⟨body, some m.scope, "__ANON__", m.package⟩)
    | .call .. => do return (← invoke fuel .one e).getLast?.getD .absent
    | .callValue .. => do return (← invoke fuel .one e).getLast?.getD .absent
    | .method .. => do return (← invoke fuel .one e).getLast?.getD .absent
    | .function name es => do return (← function fuel .one name es).getLast?.getD .absent
    | .mapping m f e => do return .ofNat (← mapped fuel m f e).length
    | .sorting order e => do return .ofNat (← sorted fuel order e).length
    | .printing p handle es => printed fuel p handle es
    | .matching target p letters wanted => do
      let found ← matched fuel target p letters false
      return .truth (found.isSome == wanted)
    | .replacing target p new letters => replaced fuel target p new letters
    | .translating target old new letters => do
      let e := target.getD .topic
      if letters.contains 'r' then
        return .text (translated old new letters (← textOf (← scalar fuel e))).1
      let cell ← place fuel e
      let t ← textOf (← valueAt cell)
      let (made, n) := translated old new letters t
      if made ≠ t then setCell cell (.text made)
      return .ofNat n
    | .pattern p letters => do
      let t ← patternSource fuel p
      let _ ← compiled letters t
      return .pattern t (letters.filter "msixn".toList.contains)
    | .readLine handle => do
      match ← portOf? (← scalar fuel handle) with
      | some i => do
        match ← nextRecord i with
        | some t => return .text t
        | none => return .absent
      | none => return .absent
    | .readInput => do
      match ← nextInput 100000 with
      | some t => return .text t
      | none => return .absent
    | .fileNames _ => do return (← items fuel e).headD .absent
    | .fileTest letter e => do
      let v ← scalar fuel e
      if letter = 't' then return .truth false
      match ← treeFor (letter = 'l') v with
      | .ok t => return fileAnswer (← Doing.process) letter t
      | .error reason => do
        setError reason
        return if letter = 's' || letter = 'M' || letter = 'A' || letter = 'C' then .absent else .truth false
    | .command line => do
      let (t, status) ← outputOf (← textOf (← scalar fuel line))
      setGlobal "?" (.ofNat status)
      return .text t
    | .doBlock b => do return (← inBlock (blockValues fuel .one b)).getLast?.getD .absent
    | .evalBlock b => do return (← guarded (inBlock (blockValues fuel .one b))).getLast?.getD .absent
    | .slice .. => do return (← items fuel e).getLast?.getD .absent
    | .fieldSlice .. => do return (← items fuel e).getLast?.getD .absent
    | .pairSlice .. => do return (← items fuel e).getLast?.getD .absent
    | .listSlice .. => do return (← items fuel e).getLast?.getD .absent
termination_by structural x => x

/-- All values of an expression. -/
def items : Nat → Expr → Doing (List Value)
  | 0, _ => overdue
  | fuel + 1, e => do
    match e with
    | .variable v => match v.sigil with
      | .array => do
        refreshMatch v
        elementsOf (← idOf v)
      | .hash => do
        refreshMatch v
        return (← pairsOf (← idOf v)).flatMap fun (k, v) => [.text k, v]
      | .code => callNamed fuel v.name none .many
      | _ => return [← scalar fuel e]
    | .deref s inner => match s with
      | .array => do elementsOf (← referent fuel .array false inner)
      | .hash => do
        return (← pairsOf (← referent fuel .hash false inner)).flatMap fun (k, v) => [.text k, v]
      | _ => return [← scalar fuel e]
    | .list es => do
      let vs ← es.mapM fun e => items fuel e
      return vs.flatten
    | .slice a is => do
      let list ← listOf fuel a
      let is ← items fuel is
      is.mapM fun i => do
        match ← elementPlace? list i.whole with
        | some cell => valueAt cell
        | none => return .absent
    | .fieldSlice h ks => do
      let hash ← hashOf fuel h
      let ks ← items fuel ks
      ks.mapM fun k => do fieldValue hash (← textOf k)
    | .pairSlice h ks => do
      let hash ← hashOf fuel h
      let ks ← items fuel ks
      let pairs ← ks.mapM fun k => do return [k, ← fieldValue hash (← textOf k)]
      return pairs.flatten
    | .listSlice inner is => do
      let vs ← items fuel inner
      let is ← items fuel is
      if vs.isEmpty then return []
      return is.map fun i => ((indexIn vs.length i.whole).bind fun i => vs[i]?).getD .absent
    | .declare _ vs _ => do
      if isPlural e then return []
      let all ← cells fuel e
      if vs.isEmpty then return []
      all.mapM valueAt
    | .localized inner => do
      let all ← cells fuel e
      if isPlural inner then return [] else all.mapM valueAt
    | .assign op a b => do
      if isPlural a && op.isNone then
        let (all, _) ← assignList fuel a b
        all.mapM valueAt
      else return [← scalar fuel e]
    | .repeatedList a b => do
      let vs ← items fuel a
      let n := (← scalar fuel b).whole.toNat
      return (List.replicate n vs).flatten
    | .and a b => do
      let x ← scalar fuel a
      if x.isTrue then items fuel b else return [x]
    | .or a b => do
      let x ← scalar fuel a
      if x.isTrue then return [x] else items fuel b
    | .orDefined a b => do
      let x ← scalar fuel a
      if x.isDefined then return [x] else items fuel b
    | .choice c a b => do
      if (← scalar fuel c).isTrue then items fuel a else items fuel b
    | .range _ a b => do
      let x ← scalar fuel a
      return rangeOf x (← scalar fuel b)
    | .reference e => references fuel e
    | .call .. => invoke fuel .many e
    | .callValue .. => invoke fuel .many e
    | .method .. => invoke fuel .many e
    | .function name es => function fuel .many name es
    | .mapping m f e => mapped fuel m f e
    | .sorting order e => sorted fuel order e
    | .matching target p letters wanted => do
      if !wanted then return [← scalar fuel e]
      if letters.contains 'g' then allMatched fuel target p letters
      else match ← matched fuel target p letters true with
        | none => return []
        | some f => return if f.groups = 0 then [.int 1] else f.all
    | .readLine handle => do
      match ← portOf? (← scalar fuel handle) with
      | some i => do
        return (← allRecords i maxReadings).map Value.text
      | none => return []
    | .readInput => do return (← allInput maxReadings).map Value.text
    | .fileNames e => do
      let t ← textOf (← scalar fuel e)
      return (namesFor (← Doing.process) t).map Value.text
    | .command line => do
      let (t, status) ← outputOf (← textOf (← scalar fuel line))
      setGlobal "?" (.ofNat status)
      return (fullLines t).map Value.text
    | .doBlock b => inBlock (blockValues fuel .many b)
    | .evalBlock b => guarded (inBlock (blockValues fuel .many b))
    | e => return [← scalar fuel e]
termination_by structural x => x

/-- The places that an expression stands for; values without a place get a new one. -/
def cells : Nat → Expr → Doing (List Nat)
  | 0, _ => overdue
  | fuel + 1, e => do
    match e with
    | .variable v => match v.sigil with
      | .scalar =>
        if (matchVariable? v.name).isSome || v.name = ['.'] || v.name = ['$'] then newCells [← scalarVariable v]
        else return [← idOf v]
      | .array => do return (← cellsOf (← idOf v)).toList
      | .hash => do
        let pairs := (← hashAt (← idOf v)).toList
        let all ← pairs.mapM fun (k, cell) => do return [← newCell (.text k), cell]
        return all.flatten
      | _ => do newCells [← scalar fuel e]
    | .deref s inner => match s with
      | .scalar => do return [← referent fuel .scalar true inner]
      | .array => do return (← cellsOf (← referent fuel .array true inner)).toList
      | _ => do newCells (← items fuel e)
    | .list es => do
      let all ← es.mapM fun e => cells fuel e
      return all.flatten
    | .element a i => do
      let list ← listOf fuel a
      let i := (← scalar fuel i).whole
      match ← elementPlace? list i with
      | some cell => return [cell]
      | none => newCells [.absent]
    | .field h k => do
      let hash ← hashOf fuel h
      let key ← textOf (← scalar fuel k)
      match (← hashAt hash).find? key with
      | some cell => return [cell]
      | none => newCells [.absent]
    | .slice a is => do
      let list ← listOf fuel a
      let is ← items fuel is
      is.mapM fun i => elementCell list i.whole
    | .fieldSlice h ks => do
      let hash ← hashOf fuel h
      let ks ← items fuel ks
      ks.mapM fun k => do fieldPlace hash (← textOf k)
    | .declare d vs _ => do
      let all ← declared d vs
      let all ← all.mapM fun (v, i) => do
        match v.sigil with
        | .scalar => return [i]
        | .array => return (← cellsOf i).toList
        | _ => return []
      return all.flatten
    | .localized inner => match inner with
      | .list es => do
        let all ← es.mapM fun e => cells fuel (.localized e)
        return all.flatten
      | inner =>
        if isPlural inner then
          let _ ← referentOf fuel inner
          return []
        else return [← place fuel e]
    | .assign op a b => do
      if isPlural a && op.isNone then return (← assignList fuel a b).1
      return [← assignOne fuel op a b]
    | .choice c a b => do
      if (← scalar fuel c).isTrue then cells fuel a else cells fuel b
    | .step _ true _ => return [← place fuel e]
    | .function name es => match String.ofList name, es with
      | "values", [h] => do
        match h with
        | .variable ⟨.array, _⟩ => cells fuel h
        | h => do return (← hashAt (← hashOf fuel h)).toList.map (·.2)
      | _, _ => do newCells (← items fuel e)
    | .mapping .grep f inner => do
      let all ← cells fuel inner
      all.filterM fun cell => topicSet cell do
        let vs ← blockValues fuel .one f
        return (vs.getLast?.getD .absent).isTrue
    | e => do newCells (← items fuel e)
termination_by structural x => x

/-- The place that an expression stands for, which may be new. -/
def place : Nat → Expr → Doing Nat
  | 0, _ => overdue
  | fuel + 1, e => do
    match e with
    | .variable v => match v.sigil with
      | .scalar => idOf v
      | _ => dieHere "Can't modify this in scalar assignment"
    | .deref .scalar inner => referent fuel .scalar true inner
    | .element a i => do
      let list ← listOf fuel a
      elementCell list (← scalar fuel i).whole
    | .field h k => do
      let hash ← hashOf fuel h
      fieldPlace hash (← textOf (← scalar fuel k))
    | .declare .. => do
      match ← cells fuel e with
      | cell :: _ => return cell
      | [] => newCell .absent
    | .localized inner => match inner with
      | .variable v => localName v
      | .field h k => do
        let hash ← hashOf fuel h
        let key ← textOf (← scalar fuel k)
        let old := (← hashAt hash).find? key
        let cell ← newCell .absent
        changeHash hash fun t => ((), t.insert key cell)
        modify fun m => { m with saved := .field hash key old :: m.saved }
        return cell
      | .element a i => do
        let list ← listOf fuel a
        let i := (← scalar fuel i).whole
        let old ← elementCell list i
        let cell ← newCell .absent
        let all ← cellsOf list
        let n := (indexIn all.size i).getD 0
        setCells list (all.set! n cell)
        modify fun m => { m with saved := .element list n old :: m.saved }
        return cell
      | .list [e] => place fuel (.localized e)
      | inner => place fuel inner
    | .assign op a b => assignOne fuel op a b
    | .choice c a b => do
      if (← scalar fuel c).isTrue then place fuel a else place fuel b
    | .step up true inner => do
      let _ ← scalar fuel (.step up true inner)
      place fuel inner
    | .list es => match es.getLast? with
      | some e => place fuel e
      | none => newCell .absent
    | e => do newCell (← scalar fuel e)
termination_by structural x => x

/-- What the value of an expression leads to; where there is none, a new thing may be made. -/
def referent : Nat → Sigil → Bool → Expr → Doing Nat
  | 0, _, _, _ => overdue
  | fuel + 1, s, makes, e => do
    let mayMake : Bool := match e with
      | .variable v => v.sigil = .scalar && (matchVariable? v.name).isNone
      | .element .. => true
      | .field .. => true
      | .deref .scalar _ => true
      | _ => false
    if makes && mayMake then leadsFrom s (← place fuel e)
    else
      let v ← scalar fuel e
      match v with
      | .absent =>
        if (← get).strict then leadsTo s v
        else newOf s []
      | v => leadsTo s v
termination_by structural x => x

/-- The array or the hash that an expression stands for, or what is to be assigned to as a whole. -/
def referentOf : Nat → Expr → Doing Nat
  | 0, _ => overdue
  | fuel + 1, e => do
    match e with
    | .variable v => do
      refreshMatch v
      idOf v
    | .deref s inner => referent fuel s true inner
    | .declare d vs _ => do
      match ← declared d vs with
      | (_, i) :: _ => return i
      | [] => newList #[]
    | .localized inner => match inner with
      | .variable v => localName v
      | inner => referentOf fuel inner
    | .assign none a b => do
      let _ ← assignList fuel a b
      match a with
      | .declare _ (v :: _) _ => idOf v
      | .localized (.variable v) => idOf v
      | a => referentOf fuel a
    | .list [e] => referentOf fuel e
    | .newArray _ => do
      match ← scalar fuel e with
      | .reference _ i => return i
      | _ => newList #[]
    | e => do
      -- a reference stands for what it leads to
      match ← scalar fuel e with
      | .reference .array i => return i
      | .reference .hash i => return i
      | _ => do
        let vs ← items fuel e
        newList (← newCells vs).toArray
termination_by structural x => x

/-- The array that an expression stands for. -/
def listOf : Nat → Expr → Doing Nat
  | 0, _ => overdue
  | fuel + 1, e => referentOf fuel e
termination_by structural x => x

/-- The hash that an expression stands for. -/
def hashOf : Nat → Expr → Doing Nat
  | 0, _ => overdue
  | fuel + 1, e => referentOf fuel e
termination_by structural x => x

/-- References to what an expression stands for. -/
def references : Nat → Expr → Doing (List Value)
  | 0, _ => overdue
  | fuel + 1, e => do
    match e with
    | .variable v => match v.sigil with
      | .scalar => do return [.reference .scalar (← idOf v)]
      | .array => do return [.reference .array (← idOf v)]
      | .hash => do return [.reference .hash (← idOf v)]
      | .code => do
        match ← codeNamed? v.name with
        | some i => return [.reference .code i]
        | none => do return [.reference .code (← globalOf .code (qualified (← get).package v.name))]
      | .handle => do return [.reference .handle (← idOf v)]
    | .deref s inner => do
      let i ← referent fuel s true inner
      return [match s with
        | .scalar => .reference .scalar i
        | .array => .reference .array i
        | .hash => .reference .hash i
        | .code => .reference .code i
        | .handle => .reference .handle i]
    | .declare d vs _ => do
      let all ← declared d vs
      return all.map fun (v, i) => match v.sigil with
        | .scalar => .reference .scalar i
        | .array => .reference .array i
        | .hash => .reference .hash i
        | .code => .reference .code i
        | .handle => .reference .handle i
    | .list es => do
      let all ← es.mapM fun e => match e with
        | .variable ⟨.array, _⟩ => do
          return (← cells fuel e).map (Value.reference .scalar)
        | e => references fuel e
      return all.flatten
    | .call name none => references fuel (.variable ⟨.code, name⟩)
    | .callValue f none => do return [← scalar fuel f]
    | .assign none a _ => do
      if isPlural a then
        let i ← referentOf fuel e
        match a with
        | .declare _ (⟨.hash, _⟩ :: _) false => return [.reference .hash i]
        | .variable ⟨.hash, _⟩ => return [.reference .hash i]
        | _ => return [.reference .array i]
      else return [.reference .scalar (← place fuel e)]
    | .newCode _ => do return [.reference .scalar (← newCell (← scalar fuel e))]
    | e => do
      if isPlace e then return [.reference .scalar (← place fuel e)]
      else return (← newCells (← items fuel e)).map (Value.reference .scalar)
termination_by structural x => x

/-- Assign one value; gives the place of the result. -/
def assignOne : Nat → Option Update → Expr → Expr → Doing Nat
  | 0, _, _, _ => overdue
  | fuel + 1, op, a, b => do
    match op with
    | none => match a with
      | .lastIndex l => do
        let n := ((← scalar fuel b).whole + 1).toNat
        let list ← listOf fuel l
        lengthen list n
        setCells list ((← cellsOf list).extract 0 n)
        newCell (.int ((n : Int) - 1))
      | .function name (e :: es) => match String.ofList name with
        | "substr" => do
          let v ← scalar fuel b
          let _ ← function fuel .one name (e :: es.take 2 ++ (if es.length < 2 then [.value .absent] else []) ++ [.value v])
          newCell v
        | "pos" => do
          let v ← scalar fuel b
          let cell ← place fuel e
          modify fun m => { m with positions := match v with
            | .absent => m.positions.erase cell
            | v => m.positions.insert cell v.whole.toNat }
          newCell v
        | "local" => assignOne fuel none (.localized e) b
        | _ => do
          let cell ← place fuel a
          setCell cell (← scalar fuel b)
          return cell
      | .declare .lasting [v] false => do
        if ← isLasting v then place fuel a
        else
          let x ← scalar fuel b
          let cell ← place fuel a
          setCell cell x
          return cell
      | .variable ⟨.handle, name⟩ => do
        match ← scalar fuel b with
        | .reference .code i => do
          modify fun m => { m with globals := m.globals.insert ('&' :: qualified m.package name) i }
          newCell .absent
        | .reference .scalar i => do
          modify fun m => { m with globals := m.globals.insert ('$' :: qualified m.package name) i }
          newCell .absent
        | .reference .array i => do
          modify fun m => { m with globals := m.globals.insert ('@' :: qualified m.package name) i }
          newCell .absent
        | .reference .hash i => do
          modify fun m => { m with globals := m.globals.insert ('%' :: qualified m.package name) i }
          newCell .absent
        | .reference .handle i => do
          modify fun m => { m with globals := m.globals.insert ('*' :: qualified m.package name) i }
          newCell .absent
        | _ => newCell .absent
      | .deref .handle inner => do
        let name ← textOf (← scalar fuel inner)
        assignOne fuel none (.variable ⟨.handle, name⟩) b
      | a => do
        let v ← scalar fuel b
        let cell ← place fuel a
        setCell cell v
        return cell
    | some (.operation .repeated) =>
      if isPlural a then
        let (all, n) ← assignList fuel a (.repeatedList a b)
        match all with
        | cell :: _ => return cell
        | [] => newCell (.ofNat n)
      else do
        let cell ← place fuel a
        setCell cell (← operate .repeated (← valueAt cell) (← scalar fuel b))
        return cell
    | some (.operation op) => do
      let cell ← place fuel a
      let v ← scalar fuel b
      let old ← valueAt cell
      setCell cell (← operate op old v)
      return cell
    | some .andAlso => do
      let cell ← place fuel a
      if (← valueAt cell).isTrue then setCell cell (← scalar fuel b)
      return cell
    | some .orElse => do
      if isPlural a then
        if !(← scalar fuel a).isTrue then
          let _ ← assignList fuel a b
        newCell (← scalar fuel a)
      else
        let cell ← place fuel a
        if !(← valueAt cell).isTrue then setCell cell (← scalar fuel b)
        return cell
    | some .orDefined => do
      let cell ← place fuel a
      if !(← valueAt cell).isDefined then setCell cell (← scalar fuel b)
      return cell
termination_by structural x => x

/-- Assign values one after another; gives the places, and how many values there were. -/
def assignList : Nat → Expr → Expr → Doing (List Nat × Nat)
  | 0, _, _ => overdue
  | fuel + 1, a, b => do
    match a with
    | .declare .lasting [v] _ => do
      if ← isLasting v then
        let _ ← declared .lasting [v]
        return ([], 0)
      else
        let vs ← items fuel b
        return (← assignTo fuel [a] vs, vs.length)
    | a => do
      let vs ← items fuel b
      let targets : List Expr := match a with
        | .list es => es
        | .declare d ws true => ws.map fun w => .declare d [w] false
        | .localized (.list es) => es.map Expr.localized
        | a => [a]
      return (← assignTo fuel targets vs, vs.length)
termination_by structural x => x

/-- Give targets values one after another; gives the places. -/
def assignTo : Nat → List Expr → List Value → Doing (List Nat)
  | 0, _, _ => overdue
  | _, [], _ => return []
  | fuel + 1, e :: es, vs => do
    let sigil : Option Sigil := match e with
      | .variable v => some v.sigil
      | .deref s _ => some s
      | .declare _ (v :: _) _ => some v.sigil
      | .localized (.variable v) => some v.sigil
      | .localized (.deref s _) => some s
      | _ => none
    match sigil with
    | some .array => do
      let list ← referentOf fuel e
      fill list vs
      let here ← cellsOf list
      let _ ← assignTo fuel es []
      return here.toList
    | some .hash => do
      let hash ← referentOf fuel e
      changeHash hash fun _ => ((), .empty)
      let all ← (inPairs vs).mapM fun (k, v) => do
        let key ← textOf k
        setField hash key v
        return [← newCell (.text key), ← fieldPlace hash key]
      let _ ← assignTo fuel es []
      return all.flatten
    | _ => match e with
      | .function ['u', 'n', 'd', 'e', 'f'] [] => assignTo fuel es (vs.drop 1)
      | .list inner => assignTo fuel (inner ++ es) vs
      | .declare d ws true => assignTo fuel ((ws.map fun w => .declare d [w] false) ++ es) vs
      | .slice .. => do
        let all ← cells fuel e
        all.zipIdx.forM fun (cell, i) => setCell cell (vs.getD i .absent)
        return all ++ (← assignTo fuel es (vs.drop all.length))
      | .fieldSlice .. => do
        let all ← cells fuel e
        all.zipIdx.forM fun (cell, i) => setCell cell (vs.getD i .absent)
        return all ++ (← assignTo fuel es (vs.drop all.length))
      | e => do
        let cell ← place fuel e
        setCell cell (vs.headD .absent)
        return cell :: (← assignTo fuel es (vs.drop 1))
termination_by structural x => x

/-- What is done with each value of a list. -/
def mapped : Nat → Mapping → Block → Expr → Doing (List Value)
  | 0, _, _, _ => overdue
  | fuel + 1, m, f, e => do
    let all ← cells fuel e
    match m with
    | .map => do
      let vs ← all.mapM fun cell => topicSet cell (blockValues fuel .many f)
      return vs.flatten
    | .grep => do
      let kept ← all.filterM fun cell => topicSet cell do
        let vs ← blockValues fuel .one f
        return (vs.getLast?.getD .absent).isTrue
      kept.mapM valueAt
termination_by structural x => x

/-- The values of a list in an order. -/
def sorted : Nat → Option Expr → Expr → Doing (List Value)
  | 0, _, _ => overdue
  | fuel + 1, order, e => do
    let vs ← items fuel e
    match order with
    | none => do
      let keyed ← vs.mapM fun v => do return (← textOf v, v)
      return (keyed.mergeSort fun a b => decide (a.1 ≤ b.1)).map (·.2)
    | some order => do
      let m ← get
      let a ← globalOf .scalar (qualified m.package ['a'])
      let b ← globalOf .scalar (qualified m.package ['b'])
      let compare (body : Doing (List Value)) : Value → Value → Doing Bool := fun x y => do
        setCell a x
        setCell b y
        let vs ← body
        return (vs.getLast?.getD .absent).toReal < 0
      let (oldA, oldB) := (← valueAt a, ← valueAt b)
      let done ← match order with
        | .newCode block => sortedBy (compare (inBlock (blockValues fuel .one block))) vs.length vs
        | order => do
          let code ← leadsTo .code (← scalar fuel order)
          sortedBy (compare (callCode fuel code [] .one)) vs.length vs
      setCell a oldA
      setCell b oldB
      return done
termination_by structural x => x

/-- Print values. -/
def printed : Nat → Printing → Option Expr → List Expr → Doing Value
  | 0, _, _, _ => overdue
  | fuel + 1, p, handle, es => do
    let target ← match handle with
      | none => pure (some (← get).output)
      | some e => do portOf? (← scalar fuel e)
    let all ← cells fuel (if es.isEmpty && p ≠ .printf then .topic else .list es)
    let vs ← all.mapM valueAt
    let t ← match p with
      | .printf => do
        let shown ← (vs.drop 1).mapM named
        pure (formatWith (← textOf (vs.headD .absent)) shown)
      | p => do
        let ts ← vs.mapM textOf
        let separator ← globalValue ","
        let ending ← globalValue "\\"
        pure (Text.join separator.toText ts ++ (if p = .say then ['\n'] else []) ++ ending.toText)
    match target with
    | some i => return .truth (← writePort i t)
    | none => do
      setError badDescriptor
      return .truth false
termination_by structural x => x

/-- The text of an expression that is to be matched. -/
def patternSource : Nat → Expr → Doing Text
  | 0, _ => overdue
  | fuel + 1, e => do
    match e with
    | .joined es => do
      let ts ← es.mapM fun e => do patternOf (← scalar fuel e)
      return ts.flatten
    | e => patternOf (← scalar fuel e)
termination_by structural x => x

/-- The match of a text that is looked for; the next one may be looked for behind the last one. -/
def matched : Nat → Option Expr → Expr → Text → Bool → Doing (Option Found)
  | 0, _, _, _, _ => overdue
  | fuel + 1, target, p, letters, _ => do
    let e := target.getD .topic
    let source ← patternSource fuel p
    let (here, source) : Bool × Text := match source with
      | '\\' :: 'G' :: rest => (true, rest)
      | t => (false, t)
    let (c, names) ← compiled letters source
    let again := letters.contains 'g'
    let cell ← if !again && !here then pure 0 else if isPlace e then place fuel e else do newCell (← scalar fuel e)
    let t ← if again || here then textOf (← valueAt cell) else textOf (← scalar fuel e)
    let old ← Doing.looking fun m => if again || here then m.positions[cell]? else none
    let start := old.getD 0
    let wasEmpty := (← get).emptied.contains cell && again
    let spot := Regex.spotAt t start
    let found : Option Regex.Match :=
      if t.length < start then none
      else if here then (Regex.matchesAt c.mode c.regex spot).find? fun m => !(m.text.isEmpty && wasEmpty && m.finish = start)
      else matchFrom c spot (if wasEmpty then some start else none)
    match found with
    | none => do
      if again && !letters.contains 'c' then
        modify fun m => { m with
          positions := m.positions.erase cell
          emptied := m.emptied.filter (· ≠ cell) }
      return none
    | some m => do
      let f := foundIn c names t m
      modify fun s => { s with
        found := some f
        positions := if again then s.positions.insert cell m.finish else s.positions
        emptied := if again then
          (if m.text.isEmpty then cell :: s.emptied.filter (· ≠ cell) else s.emptied.filter (· ≠ cell)) else s.emptied }
      return some f
termination_by structural x => x

/-- All matches of a text: their groups, or what is matched. -/
def allMatched : Nat → Option Expr → Expr → Text → Doing (List Value)
  | 0, _, _, _ => overdue
  | fuel + 1, target, p, letters => do
    let e := target.getD .topic
    let source ← patternSource fuel p
    let (here, source) : Bool × Text := match source with
      | '\\' :: 'G' :: rest => (true, rest)
      | t => (false, t)
    let (c, names) ← compiled letters source
    let cell ← if isPlace e then place fuel e else do newCell (← scalar fuel e)
    let t ← textOf (← valueAt cell)
    let start := (← Doing.looking fun m => m.positions[cell]?).getD 0
    let ms := allMatches c t start
    let ms := if here then adjacent start ms else ms
    modify fun m => { m with positions := m.positions.erase cell }
    match ms.getLast? with
    | none => return []
    | some last => do
      modify fun m => { m with found := some (foundIn c names t last) }
      return ms.flatMap fun m =>
        let f := foundIn c names t m
        if f.groups = 0 then [.text m.text] else f.all
termination_by structural x => x

/-- Replace what is matched; gives how often, or the new text. -/
def replaced : Nat → Option Expr → Expr → Expr → Text → Doing Value
  | 0, _, _, _, _ => overdue
  | fuel + 1, target, p, new, letters => do
    let e := target.getD .topic
    let source ← patternSource fuel p
    let (c, names) ← compiled letters source
    let keeps := letters.contains 'r'
    let cell ← if keeps then (do newCell (← scalar fuel e)) else place fuel e
    let t ← textOf (← valueAt cell)
    let ms := if letters.contains 'g' then allMatches c t 0 else (c.search t 0).toList
    if ms.isEmpty then return if keeps then .text t else .truth false
    let parts ← ms.mapM fun m => do
      modify fun s => { s with found := some (foundIn c names t m) }
      let made ← textOf (← scalar fuel new)
      return (m, made)
    let (made, rest) := parts.foldl (fun (s : List Text × Nat) (q : Regex.Match × Text) =>
      (q.2 :: (t.drop s.2).take (q.1.start - s.2) :: s.1, q.1.finish)) ([], 0)
    let all := made.reverse.flatten ++ t.drop rest
    if keeps then return .text all
    setCell cell (.text all)
    return .ofNat ms.length
termination_by structural x => x

/-- Call a function with arguments at places. -/
def callCode : Nat → Nat → List Nat → Want → Doing (List Value)
  | 0, _, _, _ => overdue
  | fuel + 1, i, arguments, want => do
    let c ← Doing.looking fun m => m.codes[i]?
    match c with
    | some c => do
      if c.package.isEmpty then
        dieHere ("Undefined subroutine &" ++ qualifiedShown c.name ++ " called")
      let list ← newList arguments.toArray
      let vs ← inCall i c list want (blockValues fuel want c.body)
      return match want with
        | .one => [vs.getLast?.getD .absent]
        | _ => vs
    | none => dieHere "Not a CODE reference"
termination_by structural x => x

/-- Call a function by its name; without arguments it gets those of the function that calls it. -/
def callNamed : Nat → Text → Option (List Expr) → Want → Doing (List Value)
  | 0, _, _, _ => overdue
  | fuel + 1, name, args, want => do
    match ← codeNamed? name with
    | some i => match args with
      | some es => do
        let arguments ← cells fuel (.list es)
        callCode fuel i arguments want
      | none => do
        let list ← globalOf .array ['_']
        callCode fuel i (← cellsOf list).toList want
    | none => do
      let known ← Doing.looking fun m => m.constants[name]?
      match known with
      | some vs => return vs
      | none => do
        let es := args.getD []
        match String.ofList (lastPart name), es with
        | "first", f :: es => chosen fuel want "first" f es
        | "any", f :: es => chosen fuel want "any" f es
        | "all", f :: es => chosen fuel want "all" f es
        | "none", f :: es => chosen fuel want "none" f es
        | "notall", f :: es => chosen fuel want "notall" f es
        | "reduce", f :: es => folded fuel false f es
        | "reductions", f :: es => folded fuel true f es
        | "croak", es => do
          let m ← get
          let vs ← items fuel (.list es)
          let line := match m.frames with
            | f :: _ => f.line
            | [] => m.line
          modify fun m => { m with line := line }
          throw (.died (← messageOf vs "Died"))
        | "confess", es => do throw (.died (← messageOf (← items fuel (.list es)) "Died"))
        | "carp", es => do
          let m ← get
          let vs ← items fuel (.list es)
          let line := match m.frames with
            | f :: _ => f.line
            | [] => m.line
          modify fun m => { m with line := line }
          let t ← messageOf vs "Warning: something's wrong"
          modify fun n => { n with line := m.line }
          (write 2 t.toText : Act Unit)
          return [.int 1]
        | "sleep", es => do function fuel want "sleep" es
        | "time", _ => do
          let p ← Doing.process
          return [.real (doubleOf (p.now / 1000) / 1000000)]
        | _, es => do
          let vs ← items fuel (.list es)
          match libraryFunction? (lastPart name) want vs with
          | some x => x
          | none => dieHere ("Undefined subroutine &" ++ qualifiedShown (qualified (← get).package name) ++ " called")
termination_by structural x => x

/-- The first value for which a function holds, or whether it does so for some or all. -/
def chosen : Nat → Want → String → Expr → List Expr → Doing (List Value)
  | 0, _, _, _, _ => overdue
  | fuel + 1, _, kind, f, es => do
    let code ← leadsTo .code (← scalar fuel f)
    let all ← cells fuel (.list es)
    let holds (cell : Nat) : Doing Bool := topicSet cell do
      let vs ← callCode fuel code [] .one
      return (vs.getLast?.getD .absent).isTrue
    let isUntil : Bool := kind = "all" || kind = "notall"
    let found ← all.findM? fun cell => do
      let h ← holds cell
      return h != isUntil
    match kind with
    | "first" => match found with
      | some cell => return [← valueAt cell]
      | none => return [.absent]
    | "any" => return [.truth found.isSome]
    | "all" => return [.truth found.isNone]
    | "none" => return [.truth found.isNone]
    | _ => return [.truth found.isSome]
termination_by structural x => x

/-- Values joined one after another by a function of two. -/
def folded : Nat → Bool → Expr → List Expr → Doing (List Value)
  | 0, _, _, _ => overdue
  | fuel + 1, shows, f, es => do
    let code ← leadsTo .code (← scalar fuel f)
    let vs ← items fuel (.list es)
    let m ← get
    let a ← globalOf .scalar (qualified m.package ['a'])
    let b ← globalOf .scalar (qualified m.package ['b'])
    match vs with
    | [] => return if shows then [] else [.absent]
    | v :: vs => do
      let steps ← vs.foldlM (fun (done : List Value) (w : Value) => do
        setCell a (done.headD .absent)
        setCell b w
        let made ← callCode fuel code [] .one
        return made.getLast?.getD .absent :: done) [v]
      return if shows then steps.reverse else steps.take 1
termination_by structural x => x

/-- The values of a call. -/
def invoke : Nat → Want → Expr → Doing (List Value)
  | 0, _, _ => overdue
  | fuel + 1, want, e => do
    match e with
    | .call name args => callNamed fuel name args want
    | .callValue f args => do
      let code ← leadsTo .code (← scalar fuel f)
      match args with
      | some es => do
        let arguments ← cells fuel (.list es)
        callCode fuel code arguments want
      | none => do
        let list ← globalOf .array ['_']
        callCode fuel code (← cellsOf list).toList want
    | .method object name es => do
      let o ← scalar fuel object
      let arguments ← cells fuel (.list es)
      let self ← newCell o
      match ← scalar fuel name with
      | .reference .code i => callCode fuel i (self :: arguments) want
      | n => methodCall fuel want o (self :: arguments) (← textOf n)
    | e => items fuel e
termination_by structural x => x

/-- Call a method by its name; the object is the first of the arguments. -/
def methodCall : Nat → Want → Value → List Nat → Text → Doing (List Value)
  | 0, _, _, _, _ => overdue
  | fuel + 1, want, o, arguments, name => do
    let isSuper := "SUPER::".toList.isPrefixOf name
    let plain := lastPart name
    match ← classNamed o with
    | none => match o with
      | .absent => dieHere ("Can't call method \"" ++ name ++ "\" on an undefined value")
      | _ => dieHere ("Can't call method \"" ++ name ++ "\" on unblessed reference")
    | some class_ => do
      if class_.isEmpty then dieHere ("Can't call method \"" ++ name ++ "\" without a package or object reference")
      let found ← if isSuper then do
          let package := (← get).package
          let parents := (← ancestorsOf 50 package).drop 1
          parents.findSomeM? fun c => codeNamed? (c ++ "::" ++ plain)
        else if name.contains ':' then codeNamed? name
        else methodOf? class_ name
      match found with
      | some i => callCode fuel i arguments want
      | none => do
        let vs ← (arguments.drop 1).mapM valueAt
        let v := vs.headD .absent
        match String.ofList plain, o with
        | "isa", _ => do
          let classes ← ancestorsOf 50 class_
          return [.truth (classes.contains (← textOf v))]
        | "DOES", _ => do
          let classes ← ancestorsOf 50 class_
          return [.truth (classes.contains (← textOf v))]
        | "can", _ => do
          match ← methodOf? class_ (← textOf v) with
          | some i => return [.reference .code i]
          | none => return [.truth false]
        | "import", _ => return []
        | "unimport", _ => return []
        | "VERSION", _ => return [← valueAt (← globalOf .scalar (class_ ++ "::VERSION"))]
        | method, .reference .handle i => handleMethod i method vs want
        | method, _ => do
          let fileClass : Bool := match ← portOf? o with
            | some _ => true
            | none => false
          if fileClass then
            match ← portOf? o with
            | some i => handleMethod i method vs want
            | none => return []
          else if class_ = "File::Spec".toList && (method = "catfile" || method = "catdir") then
            return [.text (Text.join ['/'] (vs.map Value.toText))]
          else if class_ = "IO::File".toList && method = "new" then
            let i ← newPort []
            let (mode, path) : Text × Value := match vs with
              | [path] => let (m, t) := modeIn path.toText; (m, .text t)
              | path :: mode :: _ => (match mode.toText with
                | ['r'] => ['<']
                | ['w'] => ['>']
                | ['a'] => ['>', '>']
                | m => m, path)
              | [] => (['<'], .absent)
            if ← openPort i mode path then return [.reference .handle i] else return [.absent]
          else
            match ← methodOf? class_ "AUTOLOAD" with
            | some i => do
              let c ← Doing.looking fun m => (m.codes[i]?.map (·.package)).getD []
              let cell ← globalOf .scalar (qualified "main" (c ++ "::AUTOLOAD"))
              setCell cell (.text (class_ ++ "::" ++ plain))
              callCode fuel i arguments want
            | none => do
              let exists_ ← Doing.looking fun m => m.codes.any fun c => c.package = class_
              let hint : Text := if exists_ then [] else " (perhaps you forgot to load \"" ++ class_ ++ "\"?)"
              dieHere ("Can't locate object method \"" ++ plain ++ "\" via package \"" ++ class_ ++ ['"'] ++ hint)
termination_by structural x => x

/-- The values of a function that every script knows. -/
def function : Nat → Want → Text → List Expr → Doing (List Value)
  | 0, _, _, _ => overdue
  | fuel + 1, want, name, es => do
    let one (v : Value) : Doing (List Value) := return [v]
    let first := es.headD .topic
    match String.ofList name with
    | "scalar" => return [← scalar fuel first]
    | "defined" => match first with
      | .variable v => match v.sigil with
        | .array => one (.truth ((← cellsOf (← idOf v)).size ≠ 0))
        | .hash => one (.truth ((← hashAt (← idOf v)).size ≠ 0))
        | .code => one (.truth (← codeNamed? v.name).isSome)
        | _ => one (.truth (← scalar fuel first).isDefined)
      | .call n none => one (.truth (← codeNamed? n).isSome)
      | e => one (.truth (← scalar fuel e).isDefined)
    | "exists" => match first with
      | .field h k => do
        let hash ← hashOf fuel h
        let key ← textOf (← scalar fuel k)
        one (.truth ((← hashAt hash).find? key).isSome)
      | .element a i => do
        let list ← listOf fuel a
        one (.truth (← elementPlace? list (← scalar fuel i).whole).isSome)
      | .call n _ => one (.truth (← codeNamed? n).isSome)
      | e => one (.truth (← scalar fuel e).isDefined)
    | "delete" => deleted fuel first
    | "each" => do
      let (r, i) ← gathered fuel first
      if r = .array then return []
      match ← changeHash i Hash.step with
      | some (k, cell) => do
        let v ← valueAt cell
        return if want = .many then [.text k, v] else [.text k]
      | none => return if want = .many then [] else [.absent]
    | "keys" => do
      let (r, i) ← gathered fuel first
      if r = .array then
        let n := (← cellsOf i).size
        return if want = .many then (List.range n).map Value.ofNat else [.ofNat n]
      changeHash i fun h => ((), { h with next := 0 })
      let h ← hashAt i
      return if want = .many then h.toList.map fun e => .text e.1 else [.ofNat h.size]
    | "values" => do
      let (r, i) ← gathered fuel first
      if r = .array then
        let vs ← elementsOf i
        return if want = .many then vs else [.ofNat vs.length]
      let ps ← pairsOf i
      return if want = .many then ps.map (·.2) else [.ofNat ps.length]
    | "push" => do
      let list ← listOf fuel first
      let vs ← items fuel (.list (es.drop 1))
      let new ← newCells vs
      modify fun m => { m with lists := m.lists.modify list (· ++ new.toArray) }
      one (.ofNat (← cellsOf list).size)
    | "unshift" => do
      let list ← listOf fuel first
      let vs ← items fuel (.list (es.drop 1))
      let new ← newCells vs
      modify fun m => { m with lists := m.lists.modify list (new.toArray ++ ·) }
      one (.ofNat (← cellsOf list).size)
    | "pop" => do
      let list ← usualList fuel es
      let all ← cellsOf list
      match all.back? with
      | some cell => do
        modify fun m => { m with lists := m.lists.modify list Array.pop }
        one (← valueAt cell)
      | none => one .absent
    | "shift" => do
      let list ← usualList fuel es
      let all ← cellsOf list
      match all[0]? with
      | some cell => do
        setCells list (all.extract 1 all.size)
        one (← valueAt cell)
      | none => one .absent
    | "splice" => do
      let list ← listOf fuel first
      let all ← cellsOf list
      let vs ← (es.drop 1).take 2 |>.mapM fun e => scalar fuel e
      let new ← newCells (← items fuel (.list (es.drop 3)))
      let start : Nat := match vs with
        | v :: _ => (if v.whole < 0 then v.whole + (all.size : Nat) else min v.whole (all.size : Nat)).toNat
        | [] => 0
      let count : Nat := match vs with
        | _ :: n :: _ =>
          if n.isDefined then (if n.whole < 0 then ((all.size : Nat) : Int) - (start : Nat) + n.whole else n.whole).toNat
          else all.size - start
        | _ => all.size - start
      let taken := all.extract start (start + count)
      setCells list (all.extract 0 start ++ new.toArray ++ all.extract (start + count) all.size)
      let vs ← taken.toList.mapM valueAt
      return if want = .many then vs else [vs.getLast?.getD .absent]
    | "wantarray" => one (match (← get).want with
      | .many => .int 1
      | .one => .int 0
      | .nothing => .absent)
    | "return" => do
      let wanted := (← get).want
      let vs ← if es.isEmpty then pure (if wanted = .one then [.absent] else []) else values fuel wanted (match es with
        | [e] => e
        | es => .list es)
      throw (.returned vs)
    | "next" => throw (.next (labelOf es))
    | "last" => throw (.last (labelOf es))
    | "redo" => throw (.redo (labelOf es))
    | "die" => do
      let vs ← items fuel (.list es)
      let v ← messageOf vs "Died"
      match ← fieldValue (← globalOf .hash "SIG") "__DIE__" with
      | .reference .code i => do
        let _ ← callCode fuel i [← newCell v] .nothing
      | _ => pure ()
      throw (.died v)
    | "warn" => do
      let vs ← items fuel (.list es)
      let v ← messageOf vs "Warning: something's wrong"
      match ← fieldValue (← globalOf .hash "SIG") "__WARN__" with
      | .reference .code i => do
        let _ ← callCode fuel i [← newCell v] .nothing
      | _ => do
        let t ← textOf v
        (write 2 t : Act Unit)
      one (.int 1)
    | "exit" => do
      let v ← if es.isEmpty then pure (.int 0) else scalar fuel first
      throw (.exited (v.whole % 256).toNat)
    | "eval" => do
      let t ← textOf (← scalar fuel first)
      guarded (evalText fuel want t)
    | "do" => do
      let path ← textOf (← scalar fuel first)
      match ← (readPath path : Act _) with
      | .ok t => guarded (runFile fuel want path t)
      | .error e => do
        setError e
        one .absent
    | "require" => required fuel es
    | "use" => do
      let vs ← items fuel (.list (es.drop 1))
      used fuel (← scalar fuel first).toText vs
      return []
    | "undef" => match es with
      | [] => one .absent
      | .call n none :: _ => do
        let i ← globalOf .code (qualified (← get).package n)
        modify fun m => { m with codes := m.codes.modify i fun c => { c with package := [] } }
        one .absent
      | e :: _ => do
        if isPlural e then
          let (r, i) ← gathered fuel e
          if r = .array then setCells i #[] else changeHash i fun _ => ((), .empty)
        else setCell (← place fuel e) .absent
        one .absent
    | "ref" => do
      let v ← scalar fuel first
      let m ← get
      one (match v, ← classOf? v with
        | .reference .., some c => .text c
        | .reference .scalar i, none => match m.cells[i]? with
          | some (.reference ..) => .text "REF"
          | _ => .text "SCALAR"
        | .reference r _, none => .text (Value.referentName r)
        | .pattern .., _ => .text "Regexp"
        | _, _ => .text [])
    | "bless" => do
      let v ← scalar fuel first
      let class_ ← match es with
        | _ :: c :: _ => do textOf (← scalar fuel c)
        | _ => pure (← get).package
      match v with
      | .reference r i => do
        modify fun m => { m with classes := m.classes.insert (classKey r i) class_ }
        one v
      | _ => dieHere "Can't bless non-reference value"
    | "caller" => do
      let v ← if es.isEmpty then pure (.int 0) else scalar fuel first
      let n := v.whole.toNat
      let m ← get
      match m.frames[n]? with
      | none => return []
      | some f =>
        let name := if f.name.contains ':' then f.name else "main::" ++ f.name
        let wanted : Value := match f.want with
          | .many => .int 1
          | .one => .int 0
          | .nothing => .absent
        if want ≠ .many then one (.text f.package)
        else if es.isEmpty then return [.text f.package, .text m.file, .ofNat f.line]
        else return [.text f.package, .text m.file, .ofNat f.line, .text name, .int 1, wanted]
    | "chomp" => do
      let all ← if es.isEmpty then pure [← place fuel .topic] else cells fuel (.list es)
      let separator ← globalValue "/"
      if !separator.isDefined then return [.int 0]
      let counts ← all.mapM fun cell => do
        let t ← textOf (← valueAt cell)
        let made := chomped separator.toText t
        if made.length < t.length then setCell cell (.text made)
        return t.length - made.length
      one (.ofNat counts.sum)
    | "chop" => do
      let all ← if es.isEmpty then pure [← place fuel .topic] else cells fuel (.list es)
      let gone ← all.mapM fun cell => do
        let t ← textOf (← valueAt cell)
        setCell cell (.text t.dropLast)
        return t.drop (t.length - 1)
      one (.text (gone.getLast?.getD []))
    | "pos" => do
      let cell ← place fuel first
      one (match (← get).positions[cell]? with
        | some n => .ofNat n
        | none => .absent)
    | "split" => do
      let t ← textOf (← scalar fuel ((es.drop 1).headD .topic))
      let limit ← match es[2]? with
        | some e => do pure (← scalar fuel e).whole
        | none => pure 0
      let (source, letters) ← match es.head? with
        | none => pure ([' '], [])
        | some (.matching none p letters _) => do
          let source ← patternSource fuel p
          pure (if source = [' '] then "[ ]".toList else source, letters)
        | some e => do pure (← patternOf (← scalar fuel e), [])
      let blanks := source = [' ']
      let t := if blanks then t.dropWhile isBlank else t
      let source := if blanks then "\\s+".toList else source
      let (c, _) ← compiled (if source = ['^'] then 'm' :: letters else letters) source
      let vs := splitText c t limit
      return if want = .many then vs else [.ofNat vs.length]
    | "substr" =>
      if es.length < 4 then return ← plainFunction name want (← es.mapM fun e => scalar fuel e)
      else do
        let cell ← place fuel first
        let t ← textOf (← valueAt cell)
        let offset := (← scalar fuel (es.getD 1 .topic)).whole
        let count ← scalar fuel (es.getD 2 .topic)
        let new ← textOf (← scalar fuel (es.getD 3 .topic))
        match partOf t.length offset (if count.isDefined then some count.whole else none) with
        | some (start, n) => do
          setCell cell (.text (t.take start ++ new ++ t.drop (start + n)))
          one (.text ((t.drop start).take n))
        | none => dieHere "substr outside of string"
    | "sprintf" => do
      let vs ← items fuel (.list es)
      plainFunction name want vs
    | "local" => do
      let vs ← cells fuel (.localized first)
      vs.mapM valueAt
    | "word" => do
      let t := (← scalar fuel first).toText
      match ← codeNamed? t with
      | some i => callCode fuel i [] want
      | none => do
        let m ← get
        match m.constants[t]? with
        | some vs => return vs
        | none => one (.text t)
    | "BEGIN" => do
      let code ← leadsTo .code (← scalar fuel first)
      callCode fuel code [] .nothing
    | "END" => do
      match ← scalar fuel first with
      | .reference _ i => do
        modify fun m => { m with ends := i :: m.ends }
        return []
      | _ => return []
    | "__SUB__" => one (.reference .code (← get).current)
    | "stat" => about fuel want false es
    | "lstat" => about fuel want true es
    | "system" => do
      let vs ← items fuel (.list es)
      let n ← ran (← vs.mapM textOf)
      setGlobal "?" (.int n)
      one (.int n)
    | "exec" => do
      let vs ← items fuel (.list es)
      let n ← ran (← vs.mapM textOf)
      if n < 0 then one (.truth false)
      else if n < 256 && n ≠ 0 then killedBy n.toNat
      else throw (.exited (n / 256).toNat)
    | "kill" => one (.int 0)
    | "fork" => one .absent
    | _ => fileFunction fuel want name es
termination_by structural x => x

/-- The array that is meant if none is named: the arguments. -/
def usualList : Nat → List Expr → Doing Nat
  | 0, _ => overdue
  | fuel + 1, es => do
    match es with
    | e :: _ => listOf fuel e
    | [] => do globalOf .array (if (← get).frames.isEmpty then "ARGV" else "_")
termination_by structural x => x

/-- The array or the hash that an expression stands for, and which of them it is. -/
def gathered : Nat → Expr → Doing (Sigil × Nat)
  | 0, _ => overdue
  | fuel + 1, e => do
    match e with
    | .variable v => return (v.sigil, ← referentOf fuel e)
    | .deref s _ => return (s, ← referentOf fuel e)
    | .declare _ (v :: _) _ => return (v.sigil, ← referentOf fuel e)
    | .localized (.variable v) => return (v.sigil, ← referentOf fuel e)
    | .assign none (.declare _ (v :: _) _) _ => return (v.sigil, ← referentOf fuel e)
    | e => do
      match ← scalar fuel e with
      | .reference .array i => return (.array, i)
      | .reference .hash i => return (.hash, i)
      | v => return (.hash, ← leadsTo .hash v)
termination_by structural x => x

/-- Take a key out of a hash, or an element out of an array; gives the values. -/
def deleted : Nat → Expr → Doing (List Value)
  | 0, _ => overdue
  | fuel + 1, e => do
    match e with
    | .field h k => do
      let hash ← hashOf fuel h
      let key ← textOf (← scalar fuel k)
      let v ← fieldValue hash key
      changeHash hash fun h => ((), h.erase key)
      return [v]
    | .fieldSlice h ks => do
      let hash ← hashOf fuel h
      let ks ← items fuel ks
      ks.mapM fun k => do
        let key ← textOf k
        let v ← fieldValue hash key
        changeHash hash fun h => ((), h.erase key)
        return v
    | .element a i => do
      let list ← listOf fuel a
      let i := (← scalar fuel i).whole
      let all ← cellsOf list
      match indexIn all.size i with
      | some n => do
        let v ← valueAt (all.getD n 0)
        if n + 1 = all.size then setCells list all.pop
        else setCells list (all.set! n (← newCell .absent))
        return [v]
      | none => return [.absent]
    | .localized e => deleted fuel e
    | _ => dieHere "delete argument is not a HASH or ARRAY element or slice"
termination_by structural x => x

/-- What is known of a file, in numbers. -/
def about : Nat → Want → Bool → List Expr → Doing (List Value)
  | 0, _, _, _ => overdue
  | fuel + 1, want, isLink, es => do
    let v ← scalar fuel (es.headD .topic)
    match ← treeFor isLink v with
    | .ok t => do
      let p ← Doing.process
      return if want = .many then fileNumbers p t else [.truth true]
    | .error e => do
      setError e
      return if want = .many then [] else [.truth false]
termination_by structural x => x

/-- The values of a function about files that are open, or of one that needs only values. -/
def fileFunction : Nat → Want → Text → List Expr → Doing (List Value)
  | 0, _, _, _ => overdue
  | fuel + 1, want, name, es => do
    let one (v : Value) : Doing (List Value) := return [v]
    let first := es.headD .topic
    let port : Doing (Option Nat) := do
      if es.isEmpty then return (← get).lastRead else portOf? (← scalar fuel first)
    let opened : Doing Nat := do
      match first with
      | .variable ⟨.handle, n⟩ => do idOf ⟨.handle, n⟩
      | .function ['w', 'o', 'r', 'd'] [.value v] => do idOf ⟨.handle, v.toText⟩
      | e => do
        let cell ← place fuel e
        match ← valueAt cell with
        | .reference .handle i => return i
        | .text t => idOf ⟨.handle, t⟩
        | _ => do
          let shown : Text := match e with
            | .declare _ (v :: _) _ => '$' :: v.name
            | .variable v => '$' :: v.name
            | _ => "__ANONIO__"
          let i ← newPort shown
          setCell cell (.reference .handle i)
          return i
    match String.ofList name with
    | "open" => do
      let i ← opened
      let vs ← (es.drop 1).mapM fun e => scalar fuel e
      let ok ← match vs with
        | [v] => do
          let (mode, path) := modeIn (← textOf v)
          openPort i mode (.text path)
        | mode :: target :: more => do
          let mode ← textOf mode
          if more.isEmpty then openPort i mode target
          else
            let all ← (target :: more).mapM textOf
            openPort i mode (.text (Text.join [' '] (all.map shellQuoted)))
        | [] => pure false
      if ok then
        if let .descriptor n := (← portAt i).stand then
          if 2 < n then setError "Inappropriate ioctl for device"
      one (.truth ok)
    | "close" => do
      match ← port with
      | some i => one (.truth (← closePort i))
      | none => one (.truth false)
    | "binmode" => one (.truth true)
    | "flock" => one (.truth true)
    | "fileno" => do
      match ← port with
      | some i => one (match (← portAt i).stand with
        | .descriptor n => .ofNat n
        | .memory _ => .int (-1)
        | _ => .absent)
      | none => one .absent
    | "eof" => do
      if es.isEmpty then
        match (← get).argument with
        | some i => one (.truth (← atEnd i))
        | none => match (← get).lastRead with
          | some i => one (.truth (← atEnd i))
          | none => one (.truth true)
      else match ← port with
        | some i => one (.truth (← atEnd i))
        | none => one (.truth true)
    | "readline" => values fuel want (.readLine first)
    | "getc" => do
      let i ← match es with
        | [] => some <$> globalOf .handle "STDIN"
        | _ => port
      match i with
      | some i => do
        let cell ← newCell .absent
        let n ← readInto i cell 1 0
        let v ← valueAt cell
        one (if n.isTrue then v else .absent)
      | none => one .absent
    | "read" => readTo fuel es
    | "sysread" => readTo fuel es
    | "syswrite" => do
      match ← port with
      | some i => do
        let t ← textOf (← scalar fuel (es.getD 1 .topic))
        let t ← match es[2]? with
          | some e => do pure (t.take (← scalar fuel e).whole.toNat)
          | none => pure t
        let _ ← writePort i t
        flushPort i
        one (.ofNat t.length)
      | none => one .absent
    | "select" => do
      if es.length = 4 then
        let v ← scalar fuel (es.getD 3 .topic)
        flushPorts
        (Unix.pass (v.toReal * 1000000).floor.toUInt64.toNat : Act Unit)
        return [.int 0]
      let old := (← get).output
      if !es.isEmpty then
        match ← port with
        | some i => modify fun m => { m with output := i }
        | none => pure ()
      one (.reference .handle old)
    | "opendir" => do
      let i ← opened
      let path ← textOf (← scalar fuel (es.getD 1 .topic))
      match (← Doing.process).look path with
      | .ok (.dir entries _) => do
        settle i (.directory (['.'] :: ['.', '.'] :: entries.map (·.1))) false [] true
        one (.truth true)
      | .ok _ => do
        setError "Not a directory"
        one (.truth false)
      | .error e => do
        setError e
        one (.truth false)
    | "readdir" => do
      match ← port with
      | some i => match (← portAt i).stand with
        | .directory names => do
          if want = .many then
            changePort i fun p => { p with stand := .directory [] }
            return names.map Value.text
          changePort i fun p => { p with stand := .directory (names.drop 1) }
          one (match names with
            | n :: _ => .text n
            | [] => .absent)
        | _ => one .absent
      | none => one .absent
    | "closedir" => do
      match ← port with
      | some i => one (.truth (← closePort i))
      | none => one (.truth false)
    | "seek" => do
      match ← port with
      | some i => do
        flushPort i
        let n := (← scalar fuel (es.getD 1 .topic)).whole
        let whence := (← scalar fuel (es.getD 2 (.value (.int 0)))).whole
        sought i n whence
        one (.truth true)
      | none => one (.truth false)
    | "tell" => do
      match ← port with
      | some i => one (.int (← toldPlace i))
      | none => one (.int (-1))
    | "truncate" => do
      let n := (← scalar fuel (es.getD 1 .topic)).whole.toNat
      match ← port with
      | some i => do
        flushPort i
        let p ← Doing.process
        match (← portAt i).stand with
        | .descriptor d => match p.descriptors.lookup d with
          | some (.file h) => match p.handles[h]? with
            | some h => do
              (change fun s => s.alterOpened (System.rewritten s.now fun b => b.take n) h : Act Unit)
              one (.truth true)
            | none => one (.truth false)
          | _ => one (.truth false)
        | _ => one (.truth false)
      | none => one (.truth false)
    | _ => do
      let takesTopic := among topicFunctions name || (name = "reverse".toList && want ≠ .many)
      let es := if es.isEmpty && takesTopic then [.topic] else es
      let vs ← if among manyFunctions name then items fuel (.list es) else es.mapM fun e => scalar fuel e
      plainFunction name want vs
termination_by structural x => x

/-- Read characters from a file into a place. -/
def readTo : Nat → List Expr → Doing (List Value)
  | 0, _ => overdue
  | fuel + 1, es => do
    match ← portOf? (← scalar fuel (es.headD .topic)) with
    | some i => do
      let cell ← place fuel (es.getD 1 .topic)
      let n := (← scalar fuel (es.getD 2 .topic)).whole.toNat
      let offset ← match es[3]? with
        | some e => do pure (← scalar fuel e).whole.toNat
        | none => pure 0
      return [← readInto i cell n offset]
    | none => return [.absent]
termination_by structural x => x

/-- Carry out a text as a script where it stands. -/
def evalText : Nat → Want → Text → Doing (List Value)
  | 0, _, _ => overdue
  | fuel + 1, want, t => do
    let m ← get
    match (Source.ofText "(eval 1)" true t).read with
    | .error e => throw (.died (.text (e.message ++ ['\n'])))
    | .ok (b, _) => do
      for (name, body) in definitions 50 b.statements do
        define name body (some m.scope)
      let line := m.line
      let file := m.file
      modify fun m => { m with file := "(eval 1)" }
      let vs ← Doing.catching (inBlock (blockValues fuel want b)) fun l => do
        modify fun m => { m with
          line := line
          file := file }
        match l with
        | .returned vs => return vs
        | l => throw l
      modify fun m => { m with
        line := line
        file := file }
      return vs
termination_by structural x => x

/-- Carry out the script that a file holds. -/
def runFile : Nat → Want → Text → Text → Doing (List Value)
  | 0, _, _, _ => overdue
  | fuel + 1, want, path, t => do
    match (Source.ofText path false t).read with
    | .error e => throw (.died (.text (e.message ++ ['\n'])))
    | .ok (b, _) => do
      let m ← get
      modify fun n => { n with
        scope := []
        file := path
        package := "main" }
      for (name, body) in definitions 50 b.statements do
        define name body (some [])
      let back : Doing Unit := modify fun n => { n with
        scope := m.scope
        file := m.file
        line := m.line
        package := m.package }
      let vs ← Doing.catching (blockValues fuel want b) fun l => do
        back
        match l with
        | .returned vs => return vs
        | l => throw l
      back
      return vs
termination_by structural x => x

/-- Let a file be part of the script. -/
def required : Nat → List Expr → Doing (List Value)
  | 0, _ => overdue
  | fuel + 1, es => do
    match es with
    | [.function ['w', 'o', 'r', 'd'] [.value v]] => do
      loaded fuel v.toText
      return [.int 1]
    | [e] => do
      match ← scalar fuel e with
      | .int _ => return [.int 1]
      | .real _ => return [.int 1]
      | v => do
        let path ← textOf v
        match ← (readPath path : Act _) with
        | .ok t => do
          let _ ← runFile fuel .one path t
          return [.int 1]
        | .error _ =>
          dieHere ("Can't locate " ++ path ++ " in @INC (@INC contains: " ++ moduleDirectories.toList ++ [')'])
    | _ => return [.int 1]
termination_by structural x => x

/-- Load a module unless it is known. -/
def loaded : Nat → Text → Doing Unit
  | 0, _ => overdue
  | fuel + 1, name => do
    let m ← get
    if among knownModules name || m.modules.contains name || m.codes.any (fun c => c.package = name) then return
    let path := modulePath name ++ ".pm".toList
    let extra ← (← elementsOf (← globalOf .array "INC")).mapM textOf
    let found ← extra.findSomeM? fun d => do
      match ← (readPath (d ++ '/' :: path) : Act _) with
      | .ok t => return some (d ++ '/' :: path, t)
      | .error _ => return none
    match found with
    | some (full, t) => do
      modify fun m => { m with modules := name :: m.modules }
      let _ ← runFile fuel .one full t
    | none =>
      setError "No such file or directory"
      let shown := Text.join [' '] extra
      dieHere ("Can't locate " ++ path ++ " in @INC (you may need to install the " ++ name ++ " module) (@INC contains: "
        ++ shown ++ [')'])
termination_by structural x => x

/-- Use a module with what is asked of it. -/
def used : Nat → Text → List Value → Doing Unit
  | 0, _, _ => overdue
  | fuel + 1, name, vs => do
    match String.ofList name with
    | "parent" => inherits fuel vs
    | "base" => inherits fuel vs
    | "lib" => do
      let list ← globalOf .array "INC"
      let new ← newCells vs
      modify fun m => { m with lists := m.lists.modify list (new.toArray ++ ·) }
    | _ => do
      Doing.catching (loaded fuel name) fun l => match l with
        | .died (.text t) => do
          let m ← get
          throw (.died (.text (t ++ "BEGIN failed--compilation aborted at " ++ m.file ++ " line " ++ Text.ofNat m.line ++ ".\n")))
        | l => throw l
      -- functions that a module of the script offers are known by their short names
      for v in vs do
        let n := v.toText
        let n := if n.head? = some '&' then n.drop 1 else n
        match ← codeNamed? (name ++ "::" ++ n) with
        | some i => modify fun m => { m with globals := m.globals.insert ('&' :: qualified m.package n) i }
        | none => pure ()
      if vs.isEmpty then
        match ← global? .array (name ++ "::EXPORT") with
        | some list => do
          for v in ← elementsOf list do
            match ← codeNamed? (name ++ "::" ++ v.toText) with
            | some i => modify fun m => { m with globals := m.globals.insert ('&' :: qualified m.package v.toText) i }
            | none => pure ()
        | none => pure ()
      useModule name vs
termination_by structural x => x

/-- Let the package come behind classes. -/
def inherits : Nat → List Value → Doing Unit
  | 0, _ => overdue
  | fuel + 1, vs => do
    let names := vs.map Value.toText
    let plain := names.filter (· ≠ "-norequire".toList)
    if names.length = plain.length then plain.forM fun n => loaded fuel n
    let list ← globalOf .array (qualified "main" ((← get).package ++ "::ISA"))
    let new ← newCells (plain.map Value.text)
    modify fun m => { m with lists := m.lists.modify list (· ++ new.toArray) }
termination_by structural x => x

/-- The values of the last statement of a block. -/
def blockValues : Nat → Want → Block → Doing (List Value)
  | 0, _, _ => overdue
  | fuel + 1, want, b => do
    match b.statements.getLast? with
    | none => return []
    | some s => do
      runAll fuel b.statements.dropLast
      match s with
      | .expression line e => do
        modify fun m => { m with line := line }
        values fuel want e
      | .branch line tests other => do
        modify fun m => { m with line := line }
        inScope (branchValues fuel want tests other)
      | .block _ label body => do
        let cell ← newList #[]
        let _ ← roundOf label (do
          let vs ← inBlock (blockValues fuel want body)
          setCells cell (← newCells vs).toArray) 1000
        elementsOf cell
      | s => do
        run fuel s
        return []
termination_by structural x => x

/-- The values of the branch that is taken. -/
def branchValues : Nat → Want → List (Expr × Block) → Block → Doing (List Value)
  | 0, _, _, _ => overdue
  | fuel + 1, want, tests, other => do
    match tests with
    | [] => if other.statements.isEmpty then return [] else inBlock (blockValues fuel want other)
    | (e, b) :: rest => do
      let v ← scalar fuel e
      if v.isTrue then inBlock (blockValues fuel want b)
      else if rest.isEmpty && other.statements.isEmpty then return [v]
      else branchValues fuel want rest other
termination_by structural x => x

/-- Carry out statements one after another. -/
def runAll : Nat → List Statement → Doing Unit
  | 0, _ => overdue
  | _, [] => return
  | fuel + 1, s :: ss => do
    run fuel s
    runAll fuel ss
termination_by structural x => x

/-- Carry out the statements of a file; what they declare is known to its functions. -/
def runTop : Nat → List Statement → Doing Unit
  | 0, _ => overdue
  | _, [] => return
  | fuel + 1, s :: ss => do
    run fuel s
    modify fun m => { m with fileScope := m.scope }
    runTop fuel ss
termination_by structural x => x

/-- Carry out a statement. -/
def run : Nat → Statement → Doing Unit
  | 0, _ => overdue
  | fuel + 1, s => do
    match s with
    | .expression line e => do
      modify fun m => { m with line := line }
      let _ ← values fuel .nothing e
    | .branch line tests other => do
      modify fun m => { m with line := line }
      inScope do
        let _ ← branchValues fuel .nothing tests other
    | .loop line label test body next => do
      modify fun m => { m with line := line }
      looped fuel line label test body next
    | .doLoop line body test => doLooped fuel line body test
    | .each line label v e body => do
      modify fun m => { m with line := line }
      eachOf fuel label v e body
    | .block _ label body => do
      let _ ← roundOf label (inBlock (runAll fuel body.statements)) 1000
    | .function name body => do
      -- a function inside of a block sees the variables of the block
      let m ← get
      if !m.fileScope.isEmpty || !m.scope.isEmpty then
        if m.scope.length ≠ m.fileScope.length then define name body (some m.scope)
    | .package name => modify fun m => { m with package := name }
    | .empty => return
termination_by structural x => x

/-- Carry out a loop as long as a test holds. -/
def looped : Nat → Nat → Option Text → Option Expr → Block → Block → Doing Unit
  | 0, _, _, _, _, _ => overdue
  | fuel + 1, line, label, test, body, next => do
    let goesOn ← inScope do
      let holds ← match test with
        | none => pure true
        | some e => do pure (← scalar fuel e).isTrue
      if !holds then return false
      let goesOn ← roundOf label (inBlock (runAll fuel body.statements)) 1000
      if goesOn && !next.statements.isEmpty then
        if line ≠ 0 then modify fun m => { m with line := line }
        runAll fuel next.statements
      return goesOn
    if goesOn then
      looped fuel line label test body next
termination_by structural x => x

/-- Carry out a block and do it again as long as a test holds. -/
def doLooped : Nat → Nat → Block → Expr → Doing Unit
  | 0, _, _, _ => overdue
  | fuel + 1, line, body, test => do
    inBlock (runAll fuel body.statements)
    modify fun m => { m with line := line }
    if (← scalar fuel test).isTrue then doLooped fuel line body test
termination_by structural x => x

/-- Carry out a block for each place of a list. -/
def eachOf : Nat → Option Text → Option (Bool × Variable) → Expr → Block → Doing Unit
  | 0, _, _, _, _ => overdue
  | fuel + 1, label, v, e, body => do
    let bound ← match v with
      | some (false, v) => Doing.looking fun m => match m.scope.find? fun b => b.1 = v with
        | some (_, .own _) => true
        | _ => false
      | _ => pure true
    let round (cell : Nat) : Doing Bool := roundOf label (inBlock do
      match v with
      | none => rebind .scalar ['_'] cell
      | some (isOwn, v) =>
        if isOwn || bound then bindName v (.own cell) else rebind .scalar (qualified (← get).package v.name) cell
      runAll fuel body.statements) 1000
    match e with
    | .list [.range _ a b] => eachBetween fuel round a b
    | .range _ a b => eachBetween fuel round a b
    | e => do
      let all ← cells fuel e
      eachPlace round all
termination_by structural x => x

/-- Do a round for each value from one to another. -/
def eachBetween : Nat → (Nat → Doing Bool) → Expr → Expr → Doing Unit
  | 0, _, _, _ => overdue
  | fuel + 1, round, a, b => do
    let x ← scalar fuel a
    let y ← scalar fuel b
    match x with
    | .text _ => do
      let all ← newCells (rangeOf x y)
      eachPlace round all
    | x => countedUp maxSteps round x.whole y.whole
termination_by structural x => x

end

end Rollout.Program.Perl
