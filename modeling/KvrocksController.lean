import KvrocksController.Lib.Fallible
import KvrocksController.Lib.Interval
import KvrocksController.Lib.Transition
import KvrocksController.Lib.Ownership
import KvrocksController.Consts
import KvrocksController.Lib.Strconv
import KvrocksController.Store.Slot
import KvrocksController.Store.SlotProofs
import KvrocksController.Store.Shard
import KvrocksController.Store.Cluster
import KvrocksController.Lib.Json
import KvrocksController.Store.Codec
import KvrocksController.Store.CodecProofs
import KvrocksController.Store.Parse
import KvrocksController.Controller.Failover
import KvrocksController.Controller.Migration
import KvrocksController.Server.ShardHandler
import KvrocksController.Topology.Run
import KvrocksController.Store.ClusterProofs
import KvrocksController.Controller.MigrationProofs
import KvrocksController.Topology.Ownership
import KvrocksController.Topology.Targets
import KvrocksController.Concurrency.Failover
import KvrocksController.Concurrency.Optimistic
import KvrocksController.Concurrency.Adoption
import KvrocksController.Concurrency.MigrationRecord
import KvrocksController.Store.ShardProofs
import KvrocksController.Topology.Masters
import KvrocksController.Store.ParseProofs
import KvrocksController.Lib.Replay
import KvrocksController.Raft.DataStore
import KvrocksController.Raft.Node
import KvrocksController.Raft.Agreement
import KvrocksController.Raft.Restart
import KvrocksController.Concurrency.RaftStore
import KvrocksController.Lib.HandlerChain
import KvrocksController.Server.Context
import KvrocksController.Server.Handlers
import KvrocksController.Server.Routes
import KvrocksController.Server.LeaderOnly
import KvrocksController.Concurrency.Recreation
import KvrocksController.Store.Keys
import KvrocksController.Store.Isolation
import KvrocksController.Store.Listing
import KvrocksController.Concurrency.Orphans
import KvrocksController.Server.Effects
import KvrocksController.Store.Addresses
import KvrocksController.Server.Addresses
import KvrocksController.Controller.Loops
import KvrocksController.Concurrency.Resuming
import KvrocksController.Concurrency.Followers
import KvrocksController.Controller.Pending
import KvrocksController.Controller.Records
import KvrocksController.Concurrency.Watching
import KvrocksController.Concurrency.Deadlock
import KvrocksController.Store.SlotMoves
import KvrocksController.Controller.StatusPass
import KvrocksController.Topology.MigrateSlot
import KvrocksController.Controller.Reports
import KvrocksController.Controller.Adopting
import KvrocksController.Store.NodesText
import KvrocksController.Store.TopologyText
import KvrocksController.Store.ExactListing
import KvrocksController.Lib.PathTree
import KvrocksController.Store.Zookeeper
import KvrocksController.Store.ZookeeperProofs
import KvrocksController.Store.ZookeeperRefinement
import KvrocksController.Raft.Membership
import KvrocksController.Lib.Scan
import KvrocksController.Store.Promotion
import KvrocksController.Controller.ProbeOrder
import KvrocksController.Store.Creation
import KvrocksController.Store.SlotText
import KvrocksController.Store.SlotForms
import KvrocksController.Store.ParsedNodes
import KvrocksController.Raft.Batches
import KvrocksController.Raft.Redelivery
import KvrocksController.Raft.Reads
import KvrocksController.Concurrency.FailureCounts
import KvrocksController.Store.SlotSets
import KvrocksController.Client.Migrate
import KvrocksController.Lib.Like
import KvrocksController.Lib.Utf8
import KvrocksController.Raft.Compaction
import KvrocksController.Store.Postgresql
import KvrocksController.Store.PatternListing
import KvrocksController.Store.Consul
import KvrocksController.Server.Simulation
import KvrocksController.Concurrency.Locking
import KvrocksController.Concurrency.Propagation
import KvrocksController.Election.Consul
import KvrocksController.Election.Postgresql
import KvrocksController.Election.Zookeeper
import KvrocksController.Election.Etcd
import KvrocksController.Server.Records
import KvrocksController.Server.Unreadable
import KvrocksController.Concurrency.Shutdown
import KvrocksController.Election.Raft
import KvrocksController.Server.Acknowledged
import KvrocksController.Server.Catalogue
import KvrocksController.Lib.Entries
import KvrocksController.Server.Changes
