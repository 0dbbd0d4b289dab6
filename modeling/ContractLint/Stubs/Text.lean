import ContractLint.Text.Search

/-! The texts of the stubs: declarations of the SDK for editors. -/

namespace ContractLint.Stubs

/-- A text of lines, each with its end. -/
def textOf (lines : List String) : String := String.join (lines.map (· ++ "\n"))

/-- The widths of the integer types, in bits. -/
def widths : List Nat := (List.range 32).map fun index => 8 * (index + 1)

/-- The integer types that start with a letter. -/
def integerTypes (letter : String) : List String :=
  widths.map fun width => letter ++ toString width

def integerLines (letter : String) : String :=
  String.join ((integerTypes letter).map fun name => name ++ " = int\n")

def integerText : String :=
  "\n# Unsigned integers\n" ++ integerLines "u" ++ "\n# Signed integers\n" ++ integerLines "i" ++
    "\nbigint = int\n"

/-- Names in rows of twelve, each row on a line of its own. -/
def nameRows (written : String → String) (letter : String) : String :=
  let names := (integerTypes letter).map written
  let rows := [names.take 12, (names.drop 12).take 12, names.drop 24]
  String.join (rows.map fun row => "    " ++ Text.joinWith ", " row ++ ",\n")

def integerNameRows (written : String → String) : String :=
  nameRows written "u" ++ nameRows written "i"

/-- The type of addresses. -/
def addressText : String := textOf
  ["",
    "class Address:",
    "    \"\"\"GenLayer address type.\"\"\"",
    "    def __init__(self, value: str | bytes) -> None: ...",
    "    @property",
    "    def as_hex(self) -> str: ...",
    "    @property",
    "    def as_bytes(self) -> bytes: ...",
    "    @property",
    "    def as_b64(self) -> str: ...",
    "    @property",
    "    def as_int(self) -> int: ...",
    "    def __eq__(self, other: object) -> bool: ...",
    "    def __hash__(self) -> int: ...",
    "    def __str__(self) -> str: ..."]

/-- The types of stored collections. -/
def storageText : String := textOf
  ["",
    "from typing import TypeVar, Generic, Iterator",
    "",
    "T = TypeVar('T')",
    "K = TypeVar('K')",
    "V = TypeVar('V')",
    "",
    "class Array(Generic[T]):",
    "    \"\"\"Fixed-size array storage type.\"\"\"",
    "    def __getitem__(self, index: int) -> T: ...",
    "    def __setitem__(self, index: int, value: T) -> None: ...",
    "    def __len__(self) -> int: ...",
    "    def __iter__(self) -> Iterator[T]: ...",
    "",
    "class DynArray(Generic[T]):",
    "    \"\"\"Dynamic array storage type.\"\"\"",
    "    def __getitem__(self, index: int) -> T: ...",
    "    def __setitem__(self, index: int, value: T) -> None: ...",
    "    def __len__(self) -> int: ...",
    "    def __iter__(self) -> Iterator[T]: ...",
    "    def append(self, value: T) -> None: ...",
    "    def pop(self) -> T: ...",
    "",
    "class TreeMap(Generic[K, V]):",
    "    \"\"\"Sorted map storage type.\"\"\"",
    "    def __getitem__(self, key: K) -> V: ...",
    "    def __setitem__(self, key: K, value: V) -> None: ...",
    "    def __delitem__(self, key: K) -> None: ...",
    "    def __contains__(self, key: K) -> bool: ...",
    "    def __len__(self) -> int: ...",
    "    def __iter__(self) -> Iterator[K]: ...",
    "    def get(self, key: K, default: V = ...) -> V: ...",
    "    def keys(self) -> Iterator[K]: ...",
    "    def values(self) -> Iterator[V]: ...",
    "    def items(self) -> Iterator[tuple[K, V]]: ...",
    "",
    "def allow_storage(cls: type[T]) -> type[T]:",
    "    \"\"\"Decorator to allow a class to be used in storage.\"\"\"",
    "    ..."]

/-- The file of types. -/
def typesStub : String :=
  "\"\"\"GenLayer type definitions.\"\"\"\n\nfrom typing import TypeVar, Generic, Iterator\n\n" ++
    integerText ++ "\n" ++ addressText ++ "\n" ++ storageText

/-- What contracts use. -/
def contractText : String := textOf
  ["",
    "from typing import Callable, TypeVar, Any, overload, Generic",
    "from ..py.types import Address, u256",
    "",
    "T = TypeVar('T')",
    "R = TypeVar('R')",
    "",
    "class Contract:",
    "    \"\"\"Base class for GenLayer contracts.\"\"\"",
    "    def __init__(self) -> None: ...",
    "",
    "class Event:",
    "    \"\"\"Base class for contract events.\"\"\"",
    "    ...",
    "",
    "class Lazy(Generic[T]):",
    "    \"\"\"Lazy-loaded value.\"\"\"",
    "    def __call__(self) -> T: ...",
    "",
    "class MessageType:",
    "    \"\"\"Transaction message context.\"\"\"",
    "    @property",
    "    def sender(self) -> Address: ...",
    "    @property",
    "    def sender_address(self) -> Address: ...",
    "    @property",
    "    def contract_address(self) -> Address: ...",
    "    @property",
    "    def origin_address(self) -> Address: ...",
    "    @property",
    "    def value(self) -> u256: ...",
    "    @property",
    "    def chain_id(self) -> u256: ...",
    "",
    "message: MessageType",
    "",
    "class _Public:",
    "    \"\"\"Public method decorators.\"\"\"",
    "    @property",
    "    def view(self) -> Callable[[Callable[..., R]], Callable[..., R]]: ...",
    "    @property",
    "    def write(self) -> _PublicWrite: ...",
    "",
    "class _PublicWrite:",
    "    \"\"\"Public write method decorators.\"\"\"",
    "    def __call__(self, fn: Callable[..., R]) -> Callable[..., R]: ...",
    "    @property",
    "    def payable(self) -> Callable[[Callable[..., R]], Callable[..., R]]: ...",
    "    def min_gas(self, leader: int, validator: int) -> Callable[[Callable[..., R]], Callable[..., R]]: ...",
    "",
    "public: _Public",
    "",
    "class _Nondet:",
    "    \"\"\"Non-deterministic operations.\"\"\"",
    "    def exec_prompt(self, prompt: str) -> str: ...",
    "    @property",
    "    def web(self) -> _NondetWeb: ...",
    "",
    "class _NondetWeb:",
    "    \"\"\"Web operations (non-deterministic).\"\"\"",
    "    def render(self, url: str) -> str: ...",
    "    def get(self, url: str) -> Any: ...",
    "    def post(self, url: str, body: Any = None) -> Any: ...",
    "    def request(self, url: str, method: str = \"GET\", body: Any = None) -> Any: ...",
    "    def delete(self, url: str) -> Any: ...",
    "    def head(self, url: str) -> Any: ...",
    "    def patch(self, url: str, body: Any = None) -> Any: ...",
    "",
    "nondet: _Nondet",
    "",
    "class _EqPrinciple:",
    "    \"\"\"Equivalence principle validators.\"\"\"",
    "    def strict_eq(self, fn: Callable[..., R]) -> Callable[..., R]: ...",
    "    def prompt_comparative(self, fn: Callable[..., R], principle: str) -> Callable[..., R]: ...",
    "    def prompt_non_comparative(self, fn: Callable[..., R], task: str, criteria: str) -> Callable[..., R]: ...",
    "",
    "eq_principle: _EqPrinciple",
    "",
    "class _Advanced:",
    "    \"\"\"Advanced operations.\"\"\"",
    "    def user_error_immediate(self, message: str) -> None: ...",
    "",
    "advanced: _Advanced",
    "",
    "class _Storage:",
    "    \"\"\"Storage operations.\"\"\"",
    "    def inmem_allocate(self, typ: type[T]) -> T: ...",
    "    def copy_to_memory(self, data: T) -> T: ...",
    "    class Root: ...",
    "",
    "storage: _Storage",
    "",
    "def ContractAt(address: Address) -> Any:",
    "    \"\"\"Get contract proxy at address.\"\"\"",
    "    ...",
    "",
    "def deploy_contract(contract_cls: type[T], *args: Any, **kwargs: Any) -> T:",
    "    \"\"\"Deploy a new contract.\"\"\"",
    "    ...",
    "",
    "def get_contract_at(contract_cls: type[T], address: Address) -> T:",
    "    \"\"\"Get typed contract proxy at address.\"\"\"",
    "    ...",
    "",
    "def trace(*args: Any) -> None:",
    "    \"\"\"Debug trace output.\"\"\"",
    "    ...",
    "",
    "def contract_interface(cls: type[T]) -> type[T]:",
    "    \"\"\"Decorator for contract interface.\"\"\"",
    "    ..."]

/-- The file of what contracts use. -/
def contractStub : String := "\"\"\"GenLayer gl module.\"\"\"\n\n" ++ contractText

/-- The file of the embeddings. -/
def embeddingsStub : String := textOf
  ["",
    "\"\"\"GenLayer embeddings module for vector storage and similarity search.\"\"\"",
    "",
    "from typing import TypeVar, Generic, Any, Iterator",
    "import numpy as np",
    "",
    "T = TypeVar('T')",
    "V = TypeVar('V')",
    "D = TypeVar('D')",
    "",
    "class EuclideanDistanceSquared:",
    "    \"\"\"Euclidean distance squared metric.\"\"\"",
    "    ...",
    "",
    "class CosineDistance:",
    "    \"\"\"Cosine distance metric.\"\"\"",
    "    ...",
    "",
    "class VecDB(Generic[T, V, D]):",
    "    \"\"\"Vector database for similarity search.",
    "",
    "    Type parameters:",
    "        T: The numpy dtype (e.g., np.float32)",
    "        V: The vector dimension as a Literal type",
    "        D: The value type stored with each vector",
    "    \"\"\"",
    "    def __init__(self) -> None: ...",
    "    def insert(self, key: str, vector: Any, value: D) -> None: ...",
    "    def search(self, vector: Any, k: int = 10) -> list[tuple[str, D, float]]: ...",
    "    def delete(self, key: str) -> None: ...",
    "    def __contains__(self, key: str) -> bool: ...",
    "    def __len__(self) -> int: ...",
    "    def __iter__(self) -> Iterator[str]: ...",
    "",
    "class SentenceTransformer:",
    "    \"\"\"Sentence transformer for generating embeddings.\"\"\"",
    "    def __init__(self, model_name: str) -> None: ...",
    "    def encode(self, text: str | list[str]) -> Any: ..."]

/-- What stands before the imported integer types. -/
def packageStart : String := textOf
  ["\"\"\"GenLayer SDK type stubs.\"\"\"",
    "",
    "from .py.types import (",
    "    Address,",
    "    Array,",
    "    DynArray,",
    "    TreeMap,",
    "    allow_storage,"]

/-- What stands between the imported and the listed integer types. -/
def packageMiddle : String := textOf
  ["    bigint,",
    ")",
    "from .gl import (",
    "    Contract,",
    "    Event,",
    "    Lazy,",
    "    MessageType,",
    "    message,",
    "    public,",
    "    nondet,",
    "    eq_principle,",
    "    advanced,",
    "    storage,",
    "    ContractAt,",
    "    deploy_contract,",
    "    get_contract_at,",
    "    trace,",
    "    contract_interface,",
    ")",
    "import genlayer.gl as gl",
    "",
    "__all__ = [",
    "    \"gl\",",
    "    \"Address\",",
    "    \"Array\",",
    "    \"DynArray\",",
    "    \"TreeMap\",",
    "    \"allow_storage\",",
    "    \"Contract\",",
    "    \"Event\",",
    "    \"Lazy\",",
    "    \"message\",",
    "    \"public\",",
    "    \"nondet\",",
    "    \"eq_principle\",",
    "    \"advanced\",",
    "    \"storage\",",
    "    \"ContractAt\",",
    "    \"deploy_contract\",",
    "    \"get_contract_at\",",
    "    \"trace\",",
    "    \"contract_interface\","]

/-- What stands after the listed integer types. -/
def packageEnd : String := textOf
  ["    \"bigint\",",
    "]"]

/-- The file of the whole package. -/
def packageStub : String :=
  packageStart ++ integerNameRows id ++ packageMiddle ++
    integerNameRows (fun name => "\"" ++ name ++ "\"") ++ packageEnd

end ContractLint.Stubs
