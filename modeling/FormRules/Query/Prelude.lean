import FormRules.Query.Reader

/-!
# Derived filters

The filters that are defined by others, in the order of their definitions.
-/

namespace FormRules.Query

def preludeText : String :=
  "def not: if . then false else true end;
  def select(f): if f then . else empty end;
  def isboolean: . == true or . == false;
  def isnumber: . > true and . < \"\";
  def isstring: . >= \"\" and . < [];
  def isarray: . >= [] and . < \x7b\x7d;
  def isobject: . >= \x7b\x7d;
  def type:
    if . == null then \"null\"
    elif isboolean then \"boolean\"
    elif . < \"\" then \"number\"
    elif . < [] then \"string\"
    elif . < \x7b\x7d then \"array\"
    else \"object\" end;
  def values: select(. != null);
  def nulls: select(. == null);
  def booleans: select(isboolean);
  def numbers: select(isnumber);
  def strings: select(isstring);
  def arrays: select(isarray);
  def objects: select(isobject);
  def iterables: select(. >= []);
  def scalars: select(. < []);
  def nan: 0 / 0;
  def infinite: 1 / 0;
  def isnan: isnumber and . < nan;
  def isinfinite: . == infinite or . == -infinite;
  def isfinite: isnumber and (isinfinite | not);
  def isnormal: isnumber and ((. == 0 or isnan or isinfinite) | not);
  def finites: select(isfinite);
  def normals: select(isnormal);
  def isvalid(f): try (f | true) catch false;
  def recurse(f): def rec: ., (f | rec); rec;
  def recurse: recurse(.[]?);
  def recurse(f; cond): recurse(f | select(cond));
  def repeat(f): def rec: ., (f | rec); rec;
  def until(cond; update): def rec: if cond then . else update | rec end; rec;
  def while(cond; update): def rec: if cond then ., (update | rec) else empty end; rec;
  def range($to): range(0; $to; 1);
  def range($from; $to): range($from; $to; 1);
  def isempty(g): first((g | false), true);
  def any(g; cond): isempty(first(g | cond | select(.))) | not;
  def any(cond): any(.[]; cond);
  def any: any(.);
  def all(g; cond): isempty(first(g | cond | select(. | not)));
  def all(cond): all(.[]; cond);
  def all: all(.);
  def add(f): reduce f as $x (null; . + $x);
  def add: add(.[]);
  def first: .[0];
  def last: .[-1];
  def nth($n): .[$n];
  def nth($n; f): last(limit($n + 1; f));
  def map(f): [.[] | f];
  def map_values(f): .[] |= f;
  def walk(f): def rec: (.[]? |= rec) | f; rec;
  def in(xs): . as $x | xs | has($x);
  def inside(xs): . as $x | xs | contains($x);
  def index($i): indices($i) | .[0];
  def rindex($i): indices($i) | .[-1];
  def min: min_by(.);
  def max: max_by(.);
  def unique_by(f): [group_by(f)[] | .[0]];
  def unique: unique_by(.);
  def to_entries: [keys_unsorted[] as $k | \x7bkey: $k, value: .[$k]\x7d];
  def from_entries: reduce .[] as $x (\x7b\x7d;
    . + \x7b
      ($x | if .key == null then .k // .name // .Name // .K // .Key else .key end
        | if isstring then . else tojson end):
      ($x | if has(\"value\") then .value elif has(\"v\") then .v else .Value end)
    \x7d);
  def with_entries(f): to_entries | map(f) | from_entries;
  def paths: path(..) | select(. != []);
  def paths(f): . as $top | paths | select(. as $p | $top | getpath($p) | f);
  def leaf_paths: paths(scalars);
  def del(f): f |= empty;
  def delpaths($paths): reduce ($paths | unique | reverse | .[]) as $p (.;
    if $p == [] then null else getpath($p) |= empty end);
  def pick(f): . as $top | reduce path(f) as $p (null; setpath($p; $top | getpath($p)));
  def tostream: path(def r: (.[]? | r), .; r) as $p
    | getpath($p) | reduce path(.[]?) as $q ([$p, .]; [$p + $q]);
  def fromstream(f): \x7bx: null, e: false\x7d as $init | foreach f as $i ($init;
    if .e then $init else . end
    | if $i | length == 2
      then setpath([\"e\"]; $i[0] | length == 0) | setpath([\"x\"] + $i[0]; $i[1])
      else setpath([\"e\"]; $i[0] | length == 1) end;
    if .e then .x else empty end);
  def truncate_stream(f): . as $n | null | f | select(.[0] | length > $n) | setpath([0]; .[0][$n:]);
  def flatten: def rec: if isarray then .[] | rec else . end; [.[] | rec];
  def flatten($d): def rec($k): if isarray and $k > 0 then .[] | rec($k - 1) else . end;
    if $d < 0 then error(\"flatten depth must not be negative\") else [.[] | rec($d)] end;
  def join($s): if . == [] then \"\" else reduce .[1:][] as $x (.[0]; . + $s + $x) end;
  def combinations: if length == 0 then [] else .[0][] as $x
    | (.[1:] | combinations) as $rest | [$x] + $rest end;
  def combinations(n): . as $top | [range(n)] | map($top) | combinations;
  def transpose: if . == [] then [] else . as $rows | (map(length) | max) as $n
    | [range($n) as $j | [range($rows | length) as $i | $rows[$i][$j]]] end;
  def abs: if . < 0 then -. else . end;
  def toarray: if isarray then . else [.] end;
  def ascii: [.] | implode;
  def splits($re): split($re) | .[];
  def debug: .;
  def debug(f): .;
  def stderr: .;
  def inputs: empty;
  def input: empty;
  def input_filename: null;
  def input_line_number: 0;
  def have_literal_numbers: true;
  def have_decnum: false;
  def halt_error: error; ."

def Term.definitions : List (String × List Param × Term) → Term → List (String × List Param × Term)
  | acc, .define name params body rest => rest.definitions ((name, params, body) :: acc)
  | acc, _ => acc

/-- The derived filters with their parameters, the last one first. -/
def derived : List (String × List Param × Term) :=
  match Term.ofText? preludeText with
  | some t => t.definitions []
  | none => []

end FormRules.Query
