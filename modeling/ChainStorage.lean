import ChainStorage.Mempool.WrappedTransaction
import ChainStorage.Mempool.TxListForSender
import ChainStorage.Mempool.TxByHashMap
import ChainStorage.Mempool.TxListBySenderMap
import ChainStorage.Mempool.Cache
import ChainStorage.Mempool.Eviction
import ChainStorage.Mempool.Operations
import ChainStorage.Mempool.SenderLists
import ChainStorage.Mempool.EvictionPasses
import ChainStorage.Mempool.InterleavedEviction
import ChainStorage.Mempool.RemoveTxByHash
import ChainStorage.Mempool.AddTx
import ChainStorage.Mempool.Capacity
import ChainStorage.Mempool.Goroutines
import ChainStorage.Mempool.GoroutineLocks
import ChainStorage.Mempool.GoroutineRaces
import ChainStorage.Mempool.GoroutineSolo
import ChainStorage.Mempool.GoroutineProgress
import ChainStorage.Mempool.SelectionSessionWrapper
import ChainStorage.Mempool.Selection
import ChainStorage.Mempool.WrapperMethodCalls
import ChainStorage.Storage.CacherAdapter
import ChainStorage.Storage.CacherAdapterRefinement
import ChainStorage.Storage.CacherAdapterLen
import ChainStorage.Storage.LevelDB
import ChainStorage.Storage.LevelDBRefinement
import ChainStorage.Storage.CacherAdapterOverLevelDB
