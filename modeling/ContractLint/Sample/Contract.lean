import ContractLint.Text.Search

/-! Sample contracts of any size, to try the rules on. -/

namespace ContractLint.Sample

/-- A text of lines, the last one without an end. -/
def linesText (lines : List String) : String := Text.joinWith "\n" lines

/-- Attributes below a name: `base.a0.a1`. -/
def deepName (depth : Nat) (base : String) : String :=
  base ++ String.join ((List.range depth).map fun index => ".a" ++ toString index)

/-- The parts of a contract that are written once for every number below a count. -/
def forEach (count : Nat) (part : String → List String) : List String :=
  (List.range count).flatMap fun index => part (toString index)

def runnerHash : String := "0asq35p8mzlzwgxcrx5v51srnsqyj72cq7993way1vqddwxcvkq4"

def embeddingsHash : String := "1emb35p8mzlzwgxcrx5v51srnsqyj72cq7993way1vqddwxcvkq4"

def dependency (kind hash : String) : String :=
  "\x7b \"Depends\": \"" ++ kind ++ ":" ++ hash ++ "\" \x7d"

/-- The header of a contract that depends on the runner and on the embeddings. -/
def header : String :=
  "# \x7b \"Seq\": [ " ++ dependency "py-genlayer" runnerHash ++ ", " ++
    dependency "py-lib-genlayer-embeddings" embeddingsHash ++ " ] \x7d"

/-- A method that breaks the rules on what may happen in a block. -/
def riskyMethod (depth : Nat) (index : String) : List String :=
  ["    @gl.public.write",
    "    def act" ++ index ++ "(self, x: u256) -> u256:",
    "        " ++ deepName depth "gl" ++ "()",
    "        time.time(); uuid.uuid4()",
    "        if x > 10:",
    "            raise ValueError('bad')",
    "        raise gl.vm.UserError('ok')",
    "        def leader():",
    "            async def nested_async():",
    "                x[0]()",
    "                (lambda: 1)()",
    "            " ++ deepName depth "gl" ++ "()",
    "            gl.get_contract_at(Address('0x0'))",
    "            IToken(Address('0x0'))",
    "            self.balance = " ++ index,
    "            self.balance += 1",
    "            self.balance[0] = 1",
    "            self.events['k'].emit()",
    "            gl.eq_principle.strict_eq(lambda: 1)",
    "            return gl.nondet.web.render('" ++ index ++ "')",
    "        gl.vm.run_nondet(leader, leader)",
    "        gl.nondet.exec_prompt('direct')",
    "        return self.balance"]

/-- A contract with calls and imports that are not safe. -/
def riskyContract (count depth : Nat) : String := linesText <|
  [header,
    "import random",
    "import os.path",
    "import urllib.parse",
    "from subprocess import Popen",
    "from urllib.parse import quote",
    "import time, uuid",
    "from genlayer import *",
    "",
    deepName depth "gl.nondet.web" ++ ".render('x')",
    "",
    "@gl.evm.contract_interface",
    "class IToken:",
    "    pass",
    "",
    "class Plain:",
    "    pass",
    "",
    "class MyContract(gl.Contract):",
    "    balance: u256"] ++ forEach count (riskyMethod depth) ++ [""]

/-- Functions that are compared strictly, some of which do not always give the same. -/
def strictFunctions (depth : Nat) (index : String) : List String :=
  ["def helper" ++ index ++ "():",
    "    return gl.nondet.exec_prompt('q" ++ index ++ "')",
    "",
    "def chain" ++ index ++ "():",
    "    return helper" ++ index ++ "()",
    "",
    "async def via_var" ++ index ++ "():",
    "    v: str = await gl.nondet.web.render('u')",
    "    for _ in range(1):",
    "        while False:",
    "            with open('x'):",
    "                async with ctx():",
    "                    if True:",
    "                        v = gl.nondet.exec_prompt('x')",
    "                    else:",
    "                        v = gl.get_webpage('x')",
    "        else:",
    "            pass",
    "    else:",
    "        pass",
    "    try:",
    "        v = gl.exec_prompt('x')",
    "    except A:",
    "        v = gl.exec_prompt('x')",
    "    except B:",
    "        v = gl.exec_prompt('x')",
    "    else:",
    "        v = gl.exec_prompt('x')",
    "    finally:",
    "        v += 'x'",
    "    w = " ++ deepName depth "gl",
    "    class Inner: pass",
    "    def nested():",
    "        return None",
    "    return v",
    "",
    "@gl.eq_principle.strict_eq",
    "@(tags[0])",
    "async def decorated" ++ index ++ "():",
    "    if x:",
    "        return",
    "    return await gl.nondet.exec_prompt('p')",
    "",
    "@property",
    "def notstrict" ++ index ++ "():",
    "    return 1",
    "",
    "def pure" ++ index ++ "():",
    "    v = gl.exec_prompt('x')",
    "    return v",
    "",
    "def caller" ++ index ++ "():",
    "    gl.eq_principle.strict_eq(helper" ++ index ++ ")",
    "    gl.eq_principle.strict_eq(chain" ++ index ++ ")",
    "    gl.eq_principle.strict_eq(via_var" ++ index ++ ")",
    "    gl.eq_principle.strict_eq(pure" ++ index ++ ")",
    "    gl.eq_principle_strict_eq(lambda: gl.exec_prompt('x'))",
    "    eq_principle_strict_eq(lambda: gl.get_webpage('x'))",
    "    gl.eq_principle.strict_eq(lambda: 'constant')",
    "    gl.eq_principle.strict_eq(unknown" ++ index ++ ")",
    ""]

/-- A contract that compares strictly what may differ. -/
def strictContract (count depth : Nat) : String := linesText <|
  [header, "from genlayer import *", ""] ++ forEach count (strictFunctions depth) ++
  ["class C(gl.Contract):",
    "    def _leader(self):",
    "        return gl.nondet.exec_prompt('p')",
    "    @gl.public.write",
    "    def go(self):",
    "        gl.eq_principle.strict_eq(self._leader)",
    "        gl.eq_principle.strict_eq(obj.attr)",
    "        gl.eq_principle.strict_eq(self._missing)",
    "        gl.eq_principle.strict_eq((x)())",
    ""]

/-- Storage fields, most of whose types cannot be stored, and a method with too many decorators. -/
def illFormedMembers (depth : Nat) (index : String) : List String :=
  ["    a" ++ index ++ ": int",
    "    b" ++ index ++ ": list",
    "    c" ++ index ++ ": dict",
    "    d" ++ index ++ ": list[str]",
    "    e" ++ index ++ ": dict[str, int]",
    "    f" ++ index ++ ": Array[str, Literal[0]]",
    "    g" ++ index ++ ": Array[str, Literal[4]]",
    "    h" ++ index ++ ": TreeMap[float, str]",
    "    j" ++ index ++ ": TreeMap[str, str]",
    "    k" ++ index ++ ": DynArray[Helper]",
    "    l" ++ index ++ ": Rec",
    "    obj.x: int",
    "    @" ++ deepName depth "gl.public.write",
    "    @gl.public.view",
    "    @(tags[" ++ index ++ "])",
    "    @wrapper()",
    "    def m" ++ index ++ "(self, *a, **kw): pass"]

/-- A contract that is not built as contracts have to be. -/
def illFormedContract (count depth : Nat) : String := linesText <|
  ["# " ++ dependency "py-other" "abc",
    "from genlayer import *",
    "from typing import Literal",
    "",
    "@allow_storage",
    "class Rec:",
    "    x: u256",
    "",
    "@gl.allow_storage",
    "class Rec2:",
    "    x: u256",
    "",
    "@" ++ deepName depth "something" ++ "()",
    "class Helper:",
    "    x: u256",
    "",
    "@(tags[0])",
    "@(lambda c: c)()",
    "class Odd:",
    "    x: u256",
    "",
    "class MyContract(gl.Contract):"] ++ forEach count (illFormedMembers depth) ++
  ["    @gl.public.write",
    "    def __init__(self): pass",
    "    @gl.public.view",
    "    def __hidden(self): pass",
    "    def __receive__(self): pass",
    "    @staticmethod",
    "    @gl.public.view",
    "    def noself() -> int: return 1",
    "",
    "class Second(gl.Contract):",
    "    x: u256",
    ""]

/-- A method that calls the next one of `count`, the last one the first. -/
def ringMethod (count depth : Nat) (index : Nat) : List String :=
  let call := deepName depth "gl" ++ "()"
  ["    async def m" ++ toString index ++ "(self):",
    "        def inner():",
    "            " ++ call,
    "            return gl.nondet.web.get('u" ++ toString index ++ "')",
    "        inner()",
    "        " ++ Text.joinWith "; " [call, call, call],
    "        fn = lambda: gl.nondet.exec_prompt('p')",
    "        return self.m" ++ toString ((index + 1) % count) ++ "()"]

/-- A contract whose methods call each other in a ring. -/
def ringContract (count depth : Nat) : String := linesText <|
  [header,
    "from genlayer import *",
    "",
    "class G(gl.Contract):"] ++ (List.range count).flatMap (ringMethod count depth) ++
  ["    @gl.public.write",
    "    def entry(self):",
    "        @gl.eq_principle.strict_eq",
    "        def safe():",
    "            return gl.nondet.exec_prompt('ok')",
    "        gl.vm.run_nondet(self.m0, lambda: gl.nondet.web.render('u'))",
    "        gl.eq_principle.prompt_comparative(module_helper)",
    "        gl.eq_principle.strict_eq(" ++ deepName depth "utils" ++ ")",
    "",
    "def module_helper():",
    "    return gl.nondet.exec_prompt('x')",
    ""]

/-- A contract that breaks no rule except that it has no header. -/
def plainContract (count : Nat) : String := linesText <|
  ["from genlayer import *",
    "",
    "class Clean(gl.Contract):",
    "    bal: u256"] ++
  forEach count (fun index =>
    ["    @gl.public.view",
      "    def v" ++ index ++ "(self) -> u256: return self.bal"]) ++ [""]

end ContractLint.Sample
